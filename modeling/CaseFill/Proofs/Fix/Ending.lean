import CaseFill.Fix
import CaseFill.Proofs.Proposal.Site
import CaseFill.Proofs.Resolve

/-! How a fix can end. Main statement: a fix asks until it has an enumeration and
a header, and only then makes edits, which take one of five ways. -/
namespace CaseFill
open Dialogue (Course)

/-- The five ways in which a proposal that is carried out can end, with all that
happens on each. The members matter only where cases are written or offered. -/
inductive Ending (p : Proposal) (closing : Closing) (members : List Text) :
    List Event → Except HostError FixState → Prop where
  | failed (e : HostError) :
    Ending p closing members [.edit ⟨p.uri, p.provisionalEdits, .error e⟩] (.error e)
  | declined :
    Ending p closing members [.edit ⟨p.uri, p.provisionalEdits, .ok false⟩] (.ok .aborted)
  | withdrawn (answer : Except HostError (List Text)) (undone : Except HostError Bool) :
    Ending p closing members
      [.edit ⟨p.uri, p.provisionalEdits, .ok true⟩, .completion p.uri p.completionAt answer,
        .edit ⟨p.uri, p.rollbackEdits, undone⟩] (.ok .aborted)
  | committed (labels : List Text) (hmembers : Cases.distinctMembers labels = members)
      (hne : members ≠ []) :
    Ending p closing members
      [.edit ⟨p.uri, p.provisionalEdits, .ok true⟩, .completion p.uri p.completionAt (.ok labels),
        .edit ⟨p.uri, p.finalEdits members closing, .ok true⟩] (.ok (.committed members))
  | refused (labels : List Text) (hmembers : Cases.distinctMembers labels = members)
      (hne : members ≠ []) (answer undone : Except HostError Bool) (hanswer : answer ≠ .ok true) :
    Ending p closing members
      [.edit ⟨p.uri, p.provisionalEdits, .ok true⟩, .completion p.uri p.completionAt (.ok labels),
        .edit ⟨p.uri, p.finalEdits members closing, answer⟩,
        .edit ⟨p.uri, p.rollbackEdits, undone⟩] (.ok .aborted)

namespace Ending
variable {p : Proposal} {closing : Closing} {members : List Text} {events : List Event}
  {state : Except HostError FixState}

theorem provisional_first (h : Ending p closing members events state) :
    ∃ answer rest, editAttempts events = ⟨p.uri, p.provisionalEdits, answer⟩ :: rest ∧
      ((∃ e, answer = .error e ∧ state = .error e) ∨
        state = .ok .aborted ∨ state = .ok (.committed members)) := by
  cases h with
  | failed e => exact ⟨.error e, [], rfl, .inl ⟨e, rfl, rfl⟩⟩
  | declined => exact ⟨.ok false, [], rfl, .inr (.inl rfl)⟩
  | withdrawn answer undone => exact ⟨.ok true, _, rfl, .inr (.inl rfl)⟩
  | committed labels hmembers hne => exact ⟨.ok true, _, rfl, .inr (.inr rfl)⟩
  | refused labels hmembers hne answer undone hanswer => exact ⟨.ok true, _, rfl, .inr (.inl rfl)⟩

theorem state_cases (h : Ending p closing members events state) :
    (∃ e, state = .error e) ∨ state = .ok .aborted ∨ state = .ok (.committed members) := by
  obtain ⟨answer, rest, -, ⟨e, -, hstate⟩ | hstate⟩ := h.provisional_first
  · exact .inl ⟨e, hstate⟩
  · exact .inr hstate

end Ending

namespace Proposal
variable {p : Proposal} {closing : Closing} {events : List Event}

theorem course_abort {state : FixState} (h : Course p.abort events state) :
    ∃ undone, events = [.edit ⟨p.uri, p.rollbackEdits, undone⟩] ∧ state = .aborted := by
  obtain ⟨undone, first, second, rfl, hfirst, rfl, rfl⟩ := Dialogue.course_bind_iff.mp h
  rw [Dialogue.course_attempt] at hfirst
  exact ⟨undone, by rw [hfirst]; rfl, rfl⟩

theorem course_propose {r : Except HostError FixState} (h : Course p.propose.run events r) :
    ∃ answer : Except HostError Bool, events = [.edit ⟨p.uri, p.provisionalEdits, answer⟩] ∧
      r = answer.map fun applied => if applied then .proposed p.completionAt else .aborted := by
  rcases Inquiry.course_bind_iff.mp h with ⟨e, he, rfl⟩ | ⟨a, first, second, rfl, ha, hs⟩
  · exact ⟨.error e, Inquiry.course_query.mp he, rfl⟩
  · obtain rfl : first = [.edit ⟨p.uri, p.provisionalEdits, .ok a⟩] := Inquiry.course_query.mp ha
    cases a with
    | true =>
      obtain ⟨rfl, rfl⟩ := hs
      exact ⟨.ok true, rfl, rfl⟩
    | false =>
      obtain ⟨rfl, rfl⟩ := hs
      exact ⟨.ok false, rfl, rfl⟩

theorem course_settle {state : FixState} (h : Course (p.settle p.completionAt closing) events state) :
    ∃ members,
      Ending p closing members (.edit ⟨p.uri, p.provisionalEdits, .ok true⟩ :: events) (.ok state) := by
  obtain ⟨answer, first, second, rfl, hfirst, hsecond⟩ := Dialogue.course_bind_iff.mp h
  rw [Dialogue.course_attempt] at hfirst
  subst hfirst
  cases answer with
  | error e =>
    obtain ⟨undone, rfl, rfl⟩ := course_abort hsecond
    exact ⟨[], .withdrawn (.error e) undone⟩
  | ok labels =>
    dsimp only at hsecond
    cases hmembers : Cases.distinctMembers labels with
    | nil =>
      rw [hmembers] at hsecond
      obtain ⟨undone, rfl, rfl⟩ := course_abort hsecond
      exact ⟨[], .withdrawn (.ok labels) undone⟩
    | cons member members =>
      rw [hmembers] at hsecond
      obtain ⟨answer, third, fourth, rfl, hthird, hfourth⟩ := Dialogue.course_bind_iff.mp hsecond
      rw [Dialogue.course_attempt] at hthird
      subst hthird
      by_cases hanswer : answer = .ok true
      · subst hanswer
        obtain ⟨rfl, rfl⟩ := hfourth
        exact ⟨member :: members, .committed labels hmembers (by simp)⟩
      · have hnot : isApplied answer = false := by
          cases answer with
          | error e => rfl
          | ok applied =>
            cases applied with
            | true => exact absurd rfl hanswer
            | false => rfl
        rw [hnot] at hfourth
        obtain ⟨undone, rfl, rfl⟩ := course_abort hfourth
        exact ⟨member :: members, .refused labels hmembers (by simp) answer undone hanswer⟩

theorem ending_of_course {r : Except HostError FixState}
    (h : Course (p.carryOut closing).run events r) : ∃ members, Ending p closing members events r := by
  rcases Inquiry.course_bind_iff.mp h with ⟨e, he, rfl⟩ | ⟨state, first, second, rfl, hs, hc⟩
  · obtain ⟨answer, rfl, hr⟩ := course_propose he
    cases answer with
    | error e' =>
      cases hr
      exact ⟨[], .failed e⟩
    | ok applied => cases hr
  · obtain ⟨answer, rfl, hr⟩ := course_propose hs
    cases answer with
    | error e => cases hr
    | ok applied =>
      cases applied with
      | true =>
        cases hr
        obtain ⟨state, hsettle, rfl⟩ := Inquiry.course_lift.mp hc
        exact course_settle hsettle
      | false =>
        cases hr
        obtain ⟨rfl, rfl⟩ := hc
        exact ⟨[], .declined⟩

end Proposal

namespace Fix
variable {uri : Uri} {content : Text} {range : Range} {settings : Settings}

inductive Sequel (uri : Uri) (content : Text) (range : Range) :
    Except HostError (Option ResolvedEnum) → List Event → Except HostError FixOutcome → Prop where
  | failed (e : HostError) : Sequel uri content range (.error e) [] (.error e)
  | unresolved : Sequel uri content range (.ok none) [] (.ok .notApplicable)
  | headerless (r : ResolvedEnum) (h : headerOf content range = none) :
    Sequel uri content range (.ok (some r)) [] (.ok .notApplicable)
  | proposed (r : ResolvedEnum) (hname : Text.isIdentifier r.name = true) (header : Header)
      (h : headerOf content range = some header) (members : List Text) {events : List Event}
      {state : Except HostError FixState}
      (hend : Ending ⟨uri, range.start.line, r.name, header⟩
        (Closing.ofHeader header content range.start.line) members events state) :
    Sequel uri content range (.ok (some r)) events (state.map (FixOutcome.ofState r.name))

/-- A fix asks until the resolution has ended, and what follows is decided by the
result. -/
theorem course_addCases {events : List Event} {outcome : Except HostError FixOutcome}
    (h : Course (addCases uri content range settings).run events outcome) :
    ∃ queries rest resolved, events = queries ++ rest ∧ (∀ e ∈ queries, e.call.IsQuery) ∧
      Course (Resolve.resolve uri content range settings).run queries resolved ∧
      Sequel uri content range resolved rest outcome := by
  rcases Inquiry.course_bind_iff.mp h with ⟨e, he, rfl⟩ | ⟨found, queries, rest, rfl, hq, hr⟩
  · obtain ⟨hqueries, -⟩ := Resolve.always_resolve uri content range settings _ _ he
    exact ⟨events, [], .error e, by simp, hqueries, he, .failed e⟩
  · obtain ⟨hqueries, hnamed⟩ := Resolve.always_resolve uri content range settings _ _ hq
    refine ⟨queries, rest, .ok found, rfl, hqueries, hq, ?_⟩
    cases found with
    | none =>
      obtain ⟨rfl, rfl⟩ := hr
      exact .unresolved
    | some r =>
      have hname : Text.isIdentifier r.name = true := hnamed _ rfl r rfl
      dsimp only at hr
      cases hheader : headerOf content range with
      | none =>
        rw [hheader] at hr
        obtain ⟨rfl, rfl⟩ := hr
        exact .headerless r hheader
      | some header =>
        rw [hheader] at hr
        rcases Inquiry.course_bind_iff.mp hr with ⟨e, he, rfl⟩ | ⟨state, first, second, rfl, hs, hd⟩
        · obtain ⟨members, hend⟩ := Proposal.ending_of_course he
          exact .proposed r hname header hheader members hend
        · obtain ⟨rfl, rfl⟩ := hd
          obtain ⟨members, hend⟩ := Proposal.ending_of_course hs
          rw [List.append_nil]
          exact .proposed r hname header hheader members hend

theorem nonempty_site (uri : Uri) {header : Header} {name : Text}
    (h : headerOf content range = some header) (hname : Text.isIdentifier name = true) :
    Nonempty (Proposal.Site ⟨uri, range.start.line, name, header⟩ content) := by
  obtain ⟨line, hline, hinspect⟩ := Option.bind_eq_some_iff.mp h
  exact Proposal.nonempty_site hline hinspect (Text.newline_notMem_of_isIdentifier hname)

end Fix
end CaseFill
