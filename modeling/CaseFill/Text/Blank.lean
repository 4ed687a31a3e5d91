import CaseFill.Text.Character

/-! Trimming, and cutting a text at its blanks. -/
namespace CaseFill.Text

def dropEndWhile (p : Char → Bool) (t : Text) : Text := (t.reverse.dropWhile p).reverse

def stripBoth (p : Char → Bool) (t : Text) : Text := dropEndWhile p (t.dropWhile p)

def trimStart (t : Text) : Text := t.dropWhile isBlank

def trimEnd (t : Text) : Text := dropEndWhile isBlank t

def trim (t : Text) : Text := stripBoth isBlank t

/-- Put `c` in front of the first piece; it becomes a piece of its own when
there is none. -/
def prepend (c : Char) : List Text → List Text
  | [] => [[c]]
  | t :: ts => (c :: t) :: ts

def piecesBy (p : Char → Bool) : Text → List Text
  | [] => [[]]
  | c :: cs => if p c then [] :: piecesBy p cs else prepend c (piecesBy p cs)

def cutAt (p : Char → Bool) (t : Text) : Text × Option Text :=
  match t.dropWhile (!p ·) with
  | [] => (t, none)
  | _ :: rest => (t.takeWhile (!p ·), some rest)

def tokens (t : Text) : List Text := (piecesBy isBlank t).filter (· ≠ [])

def joined (separator : Text) : List Text → Text
  | [] => []
  | [t] => t
  | t :: ts => t ++ separator ++ joined separator ts

end CaseFill.Text
