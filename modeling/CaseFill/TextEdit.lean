import CaseFill.Position
import CaseFill.Text.Character

/-! Edits of a document. -/
namespace CaseFill

structure TextEdit where
  range : Range
  newText : Text
deriving DecidableEq, Repr, Inhabited

namespace TextEdit

def insertion (place : Position) (text : Text) : TextEdit := ⟨⟨place, place⟩, text⟩

def deletion (start stop : Position) : TextEdit := ⟨⟨start, stop⟩, []⟩

end TextEdit

end CaseFill
