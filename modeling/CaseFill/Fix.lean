import CaseFill.Proposal
import CaseFill.Resolve

/-! Filling a switch with its cases. The proposal goes into the document, the
editor is asked what completes its provisional label, and its answer is the list
of members. Then either the cases are written after the provisional text, or the
provisional text is taken back. -/
namespace CaseFill

inductive FixState where
  | proposed (completionAt : Position)
  | committed (members : List Text)
  /-- The provisional text was taken back, or an edit was declined. -/
  | aborted
deriving DecidableEq, Repr

inductive FixOutcome where
  /-- The range is no switch over an enumeration; nothing was changed. -/
  | notApplicable
  | committed (enumName : Text) (members : List Text)
  /-- The provisional text was taken back or refused. -/
  | aborted (enumName : Text)
deriving DecidableEq, Repr

namespace FixOutcome

def ofState (enumName : Text) : FixState → FixOutcome
  | .committed members => committed enumName members
  | .proposed _ => aborted enumName
  | .aborted => aborted enumName

end FixOutcome

namespace Proposal

/-- Take the proposal back. The fix has ended even if the editor does not obey. -/
def abort (p : Proposal) : Dialogue FixState := do
  let _ ← Dialogue.attempt (.edit p.uri p.rollbackEdits)
  return .aborted

def isApplied (answer : Except HostError Bool) : Bool :=
  match answer with
  | .ok applied => applied
  | .error _ => false

/-- Write the cases that completion offers, or take the proposal back. -/
def settle (p : Proposal) (completionAt : Position) (closing : Closing) : Dialogue FixState := do
  match ← Dialogue.attempt (.completion p.uri completionAt) with
  | .error _ => p.abort
  | .ok labels =>
    match Cases.distinctMembers labels with
    | [] => p.abort
    | member :: members =>
      let answer ← Dialogue.attempt (.edit p.uri (p.finalEdits (member :: members) closing))
      if isApplied answer then return .committed (member :: members) else p.abort

def propose (p : Proposal) : Inquiry FixState := do
  let applied : Bool ← Inquiry.query (.edit p.uri p.provisionalEdits)
  if applied then return .proposed p.completionAt else return .aborted

def carryOut (p : Proposal) (closing : Closing) : Inquiry FixState := do
  match ← p.propose with
  | .proposed completionAt => ExceptT.lift (p.settle completionAt closing)
  | state => return state

end Proposal

namespace Fix

def headerOf (content : Text) (range : Range) : Option Header :=
  (Text.line? content range.start.line).bind Header.inspect

/-- Fill the switch in a range with one case per member. All positions are
derived from the document as it is when the fix begins. -/
def addCases (uri : Uri) (content : Text) (range : Range) (settings : Settings) :
    Inquiry FixOutcome := do
  match ← Resolve.resolve uri content range settings with
  | none => return .notApplicable
  | some resolved =>
    match headerOf content range with
    | none => return .notApplicable
    | some header =>
      let line := range.start.line
      let proposal : Proposal := ⟨uri, line, resolved.name, header⟩
      let state ← proposal.carryOut (Closing.ofHeader header content line)
      return .ofState resolved.name state

end Fix
end CaseFill
