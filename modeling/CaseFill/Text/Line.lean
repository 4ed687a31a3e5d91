import CaseFill.Text.Blank

/-! Lines of a document. A line ends at a line feed, and one carriage return
directly before that line feed belongs to the line break. A carriage return
anywhere else is part of its line, and no empty line follows a final break. -/
namespace CaseFill.Text

def lines : Text → List Text
  | [] => []
  | '\n' :: cs => [] :: lines cs
  | '\r' :: '\n' :: cs => [] :: lines cs
  | c :: cs => prepend c (lines cs)

def line? (content : Text) (n : Nat) : Option Text := (lines content)[n]?

end CaseFill.Text
