import CaseFill.Cases
import CaseFill.TextEdit
import CaseFill.Uri

/-! Proposals. The members of an enumeration are only known from completion, so
a provisional `case Name::` goes into the document first. A proposal knows the
edits that put it there, those that take it out again and those that build the
cases on it; all positions are derived from the header as it was before. -/
namespace CaseFill

/-- The provisional insertion, with all that is needed to build on it or to take
it back. -/
structure Proposal where
  uri : Uri
  line : Nat
  enumName : Text
  header : Header
deriving DecidableEq, Repr

namespace Proposal

def text (p : Proposal) : Text := p.header.punctuation ++ Cases.template p.enumName

/-- Where the provisional label ends once it is in the document. -/
def completionAt (p : Proposal) : Position :=
  ⟨p.line + 1, Text.width (Cases.label p.enumName)⟩

def onHeader (p : Proposal) (column : Nat) : Position := ⟨p.line, column⟩

def provisionalEdits (p : Proposal) : List TextEdit :=
  (p.header.openParenAt.map fun c => TextEdit.insertion (p.onHeader c) ['(']).toList ++
    (p.header.closeParenAt.map fun c => TextEdit.insertion (p.onHeader c) [')']).toList ++
    [TextEdit.insertion (p.onHeader p.header.insertAt) p.text]

/-- One if a column is given and zero otherwise: by how much the insertion of
one character there moves what stands after it. -/
def shift (column : Option Nat) : Nat := if column.isSome then 1 else 0

def removeAt (p : Proposal) (column : Nat) : TextEdit :=
  TextEdit.deletion (p.onHeader column) (p.onHeader (column + 1))

/-- The edits that take the proposal out of the document again. They refer to
the document with the proposal in it. -/
def rollbackEdits (p : Proposal) : List TextEdit :=
  let opened := shift p.header.openParenAt
  let closed := shift p.header.closeParenAt
  [TextEdit.deletion (p.onHeader (p.header.insertAt + opened + closed)) p.completionAt] ++
    (p.header.closeParenAt.map fun c => p.removeAt (c + opened)).toList ++
    (p.header.openParenAt.map fun c => p.removeAt c).toList

def finalEdits (p : Proposal) (members : List Text) (closing : Closing) : List TextEdit :=
  [TextEdit.insertion p.completionAt (Cases.block p.enumName members closing)]

end Proposal

end CaseFill
