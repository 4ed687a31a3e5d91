import CaseFill.Proofs.Host.Course
import CaseFill.Proofs.Hover.TypeName
import CaseFill.Resolve

/-! What holds of every resolution, whatever the editor answers: it only asks,
and the name that it ends with is an identifier. -/
namespace CaseFill

namespace Resolve
open Inquiry

theorem always_sweepRows (uri : Uri) (content : Text) (cap : Nat) (rows : List Row)
    (hits : List Hit) :
    Always Call.IsQuery (fun _ => True) (Sweep.sweepRows uri content cap rows hits) := by
  induction cap generalizing rows hits with
  | zero => exact always_pure trivial
  | succ cap ih =>
    rw [Sweep.sweepRows]
    cases Sweep.next? rows with
    | none => exact always_pure trivial
    | some next => exact always_bind (always_query trivial fun _ => trivial) fun _ _ => ih _ _

theorem always_searchAround (name : Text) (places : List Location) :
    Always Call.IsQuery (fun _ => True) (searchAround name places) := by
  induction places with
  | nil => exact always_pure trivial
  | cons l rest ih =>
    refine always_bind (always_query trivial fun _ => trivial) fun symbols _ => ?_
    cases Symbol.find name .enum (some l.range) symbols with
    | some symbol => exact always_pure trivial
    | none => exact ih

theorem always_findEnum (definition : Location) (name : Text) :
    Always Call.IsQuery (fun _ => True) (findEnum definition name) := by
  refine always_bind (always_query trivial fun _ => trivial) fun types _ => ?_
  cases types with
  | nil => exact always_bind (always_query trivial fun _ => trivial) fun _ _ => always_pure trivial
  | cons l rest => exact always_searchAround name (l :: rest)

theorem isIdentifier_of_nameFrom {hovers : List Text} {identifier name : Text}
    (h : nameFrom hovers identifier = some name) : Text.isIdentifier name = true := by
  obtain ⟨hover, -, h⟩ := Option.bind_eq_some_iff.mp h
  split at h
  · exact Hover.isIdentifier_of_typeName? h
  · cases h

def IsNamed (found : Option ResolvedEnum) : Prop :=
  ∀ r, found = some r → Text.isIdentifier r.name = true

theorem isNamed_none : IsNamed none := fun _ h => nomatch h

theorem always_follow (hit : Hit) : Always Call.IsQuery IsNamed (follow hit) := by
  unfold follow
  split
  · exact always_pure isNamed_none
  · refine always_bind (always_query trivial fun _ => trivial) fun hovers _ => ?_
    cases hname : nameFrom hovers hit.identifier with
    | none => exact always_pure isNamed_none
    | some name =>
      refine always_bind (always_findEnum hit.location name) fun found _ => ?_
      cases found with
      | none => exact always_pure isNamed_none
      | some place =>
        refine always_pure ?_
        rintro r hr
        cases hr
        exact isIdentifier_of_nameFrom hname

theorem always_firstEnum (hits : List Hit) : Always Call.IsQuery IsNamed (firstEnum hits) := by
  induction hits with
  | nil => exact always_pure isNamed_none
  | cons hit rest ih =>
    refine always_bind (always_follow hit) fun found hfound => ?_
    cases found with
    | none => exact ih
    | some r => exact always_pure hfound

/-- A resolution asks and does not edit, and it names an identifier. -/
theorem always_resolve (uri : Uri) (content : Text) (range : Range) (settings : Settings) :
    Always Call.IsQuery IsNamed (resolve uri content range settings) := by
  unfold resolve
  split
  · exact always_bind (always_sweepRows _ _ _ _ _) fun hits _ => always_firstEnum hits
  · exact always_pure isNamed_none

end Resolve
end CaseFill
