import CaseFill.Header

/-! How the cases of a switch end. The opening brace is looked for on the header
line and the closing one on the lines below it. -/
namespace CaseFill

inductive Closing where
  /-- The body is closed further down already. -/
  | nothing
  /-- The closing brace was on the header line; it moves to a line of its own. -/
  | lineBreak
  /-- There is no closing brace yet. -/
  | brace
deriving DecidableEq, Repr, Inhabited

namespace Closing

def text : Closing → Text
  | nothing => []
  | lineBreak => ['\n']
  | brace => ['\n', '\x7d']

def closedIn : List Text → Bool
  | [] => false
  | line :: rest =>
    if line.contains '\x7d' then true
    else if (Text.trim line).isEmpty then closedIn rest
    else false

/-- Whether the body is closed from line `fromLine` on: a closing brace comes
before any other line that is not blank. -/
def closedBelow (content : Text) (fromLine : Nat) : Bool :=
  closedIn ((Text.lines content).drop fromLine)

/-- How the cases of a header end, in the document as it is before any edit. -/
def ofHeader (h : Header) (content : Text) (headerLine : Nat) : Closing :=
  if h.endCurlyAt.isSome then lineBreak
  else if h.needsOpenBrace || !closedBelow content (headerLine + 1) then brace
  else nothing

end Closing

end CaseFill
