import CaseFill.Position
import CaseFill.Text.Search

/-! The identifier under a position. -/
namespace CaseFill.Text

def runAround (before after : Text) : Text :=
  (before.reverse.takeWhile isIdentChar).reverse ++ after.takeWhile isIdentChar

/-- The identifier that the position touches: one that ends right before the
position counts too. -/
def wordAt (content : Text) (p : Position) : Option Text := do
  let line ← line? content p.line
  let (before, after) ← splitAtColumn line p.column
  let word := runAround before after
  if word = [] then none else some word

end CaseFill.Text
