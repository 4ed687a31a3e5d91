import CaseFill.Proofs.Fix.Ending

/-! A fix leaves no half-made change. Main statement: whatever the editor answers,
the edits of a run are one of five sequences, and the outcome tells which of three
texts the document has afterwards. -/
namespace CaseFill

namespace Proposal
variable {p : Proposal} {m : List Text} {c : Closing}

-- The three transactions of a proposal differ in the lines that they reach.

theorem line_of_mem_provisionalEdits {e : TextEdit} (he : e ∈ p.provisionalEdits) :
    e.range.start.line = p.line ∧ e.range.stop.line = p.line := by
  simp only [provisionalEdits, List.mem_append, Option.mem_toList, Option.map_eq_some_iff,
    List.mem_singleton] at he
  rcases he with (⟨c, -, rfl⟩ | ⟨c, -, rfl⟩) | rfl
  · exact ⟨rfl, rfl⟩
  · exact ⟨rfl, rfl⟩
  · exact ⟨rfl, rfl⟩

theorem start_of_mem_rollbackEdits {e : TextEdit} (he : e ∈ p.rollbackEdits) :
    e.range.start.line = p.line := by
  simp only [rollbackEdits, List.mem_append, Option.mem_toList, Option.map_eq_some_iff,
    List.mem_singleton] at he
  rcases he with (rfl | ⟨c, -, rfl⟩) | ⟨c, -, rfl⟩
  · rfl
  · rfl
  · rfl

theorem rollbackEdits_ne_provisionalEdits : p.rollbackEdits ≠ p.provisionalEdits := by
  intro h
  have hmem : TextEdit.deletion (p.onHeader (p.header.insertAt + shift p.header.openParenAt +
      shift p.header.closeParenAt)) p.completionAt ∈ p.provisionalEdits := by
    rw [← h]
    simp [rollbackEdits]
  have hline : p.line + 1 = p.line := (line_of_mem_provisionalEdits hmem).2
  omega

theorem finalEdits_ne_provisionalEdits : p.finalEdits m c ≠ p.provisionalEdits := by
  intro h
  have hmem : TextEdit.insertion p.completionAt (Cases.block p.enumName m c) ∈
      p.provisionalEdits := h ▸ List.mem_singleton_self _
  have hline : p.line + 1 = p.line := (line_of_mem_provisionalEdits hmem).1
  omega

theorem finalEdits_ne_rollbackEdits : p.finalEdits m c ≠ p.rollbackEdits := by
  intro h
  have hmem : TextEdit.insertion p.completionAt (Cases.block p.enumName m c) ∈
      p.rollbackEdits := h ▸ List.mem_singleton_self _
  have hline : p.line + 1 = p.line := start_of_mem_rollbackEdits hmem
  omega

end Proposal

/-- The attempts of a run that carries out a proposal, or of one that comes to no
proposal: which edits were asked for, what became of them, and what the document
and the outcome are then. -/
structure Transaction (p : Proposal) (final : List TextEdit) (content : Text)
    (made : List EditAttempt) (outcome : Except HostError FixOutcome) : Prop where
  calls : made.map EditAttempt.call = [] ∨
    made.map EditAttempt.call = [(p.uri, p.provisionalEdits)] ∨
    made.map EditAttempt.call = [(p.uri, p.provisionalEdits), (p.uri, p.rollbackEdits)] ∨
    made.map EditAttempt.call = [(p.uri, p.provisionalEdits), (p.uri, final)] ∨
    made.map EditAttempt.call =
      [(p.uri, p.provisionalEdits), (p.uri, final), (p.uri, p.rollbackEdits)]
  committed_iff : (∃ name members, outcome = .ok (.committed name members)) ↔
    ⟨p.uri, final, .ok true⟩ ∈ made
  not_rolled_back : (∃ name members, outcome = .ok (.committed name members)) →
    (p.uri, p.rollbackEdits) ∉ made.map EditAttempt.call
  untouched : outcome = .ok .notApplicable ∨ (∃ e, outcome = .error e) →
    ∀ a ∈ made, a.answer ≠ .ok true
  /-- The document is as it was unless the editor did not obey the rollback. -/
  restored : (∃ name, outcome = .ok (.aborted name)) →
    (∀ answer, ⟨p.uri, p.rollbackEdits, answer⟩ ∈ made → answer = .ok true) →
    documentAfter p.uri content made = content
  stranded : (∃ name, outcome = .ok (.aborted name)) →
    (∃ answer, answer ≠ .ok true ∧ ⟨p.uri, p.rollbackEdits, answer⟩ ∈ made) →
    documentAfter p.uri content made = Buffer.apply content p.provisionalEdits
  document : documentAfter p.uri content made = content ∨
    documentAfter p.uri content made = Buffer.apply content p.provisionalEdits ∨
    documentAfter p.uri content made =
      Buffer.apply (Buffer.apply content p.provisionalEdits) final

namespace Ending
variable {p : Proposal} {closing : Closing} {members : List Text} {events : List Event}
  {state : Except HostError FixState} {n : Text} {content : Text}

theorem calls_cases (h : Ending p closing members events state) :
    (editAttempts events).map EditAttempt.call = [(p.uri, p.provisionalEdits)] ∨
      (editAttempts events).map EditAttempt.call =
        [(p.uri, p.provisionalEdits), (p.uri, p.rollbackEdits)] ∨
      (editAttempts events).map EditAttempt.call =
        [(p.uri, p.provisionalEdits), (p.uri, p.finalEdits members closing)] ∨
      (editAttempts events).map EditAttempt.call =
        [(p.uri, p.provisionalEdits), (p.uri, p.finalEdits members closing),
          (p.uri, p.rollbackEdits)] := by
  cases h with
  | failed e => exact .inl rfl
  | declined => exact .inl rfl
  | withdrawn answer undone => exact .inr (.inl rfl)
  | committed labels hmembers hne => exact .inr (.inr (.inl rfl))
  | refused labels hmembers hne answer undone hanswer => exact .inr (.inr (.inr rfl))

theorem committed_iff (h : Ending p closing members events state) :
    (∃ name' members', state.map (FixOutcome.ofState n) = .ok (.committed name' members')) ↔
      ⟨p.uri, p.finalEdits members closing, .ok true⟩ ∈ editAttempts events := by
  have hfp := p.finalEdits_ne_provisionalEdits (m := members) (c := closing)
  have hfr := p.finalEdits_ne_rollbackEdits (m := members) (c := closing)
  cases h with
  | failed e => simp [Except.map, hfp]
  | declined => simp [Except.map, FixOutcome.ofState, hfp]
  | withdrawn answer undone => simp [Except.map, FixOutcome.ofState, hfp, hfr]
  | committed labels hmembers hne => simp [Except.map, FixOutcome.ofState]
  | refused labels hmembers hne answer undone hanswer =>
    simp [Except.map, FixOutcome.ofState, hfp, hfr, hanswer.symm]

theorem not_rolled_back (h : Ending p closing members events state)
    (hstate : ∃ name' members',
      state.map (FixOutcome.ofState n) = .ok (.committed name' members')) :
    (p.uri, p.rollbackEdits) ∉ (editAttempts events).map EditAttempt.call := by
  have hrp := p.rollbackEdits_ne_provisionalEdits
  have hfr := p.finalEdits_ne_rollbackEdits (m := members) (c := closing)
  cases h with
  | committed labels hmembers hne => simp [EditAttempt.call, hrp, hfr.symm]
  | _ => simp [Except.map, FixOutcome.ofState] at hstate

theorem untouched (h : Ending p closing members events state)
    (hstate : state.map (FixOutcome.ofState n) = .ok .notApplicable ∨
      ∃ e, state.map (FixOutcome.ofState n) = .error e) :
    ∀ a ∈ editAttempts events, a.answer ≠ .ok true := by
  cases h with
  | failed e => simp
  | _ => simp [Except.map, FixOutcome.ofState] at hstate

theorem documentAfter_proposed (site : p.Site content) (rest : List EditAttempt) :
    documentAfter p.uri content (⟨p.uri, p.provisionalEdits, .ok true⟩ :: rest) =
      documentAfter p.uri site.edited rest := by
  rw [documentAfter_cons, EditAttempt.update_of_applied, site.apply_provisionalEdits]

/-- An aborted run either did not get the proposal into the document, or asked to
take it out once, as its last edit. -/
theorem aborted_cases (site : p.Site content)
    (h : Ending p closing members events (.ok .aborted)) :
    ((∀ undone, ⟨p.uri, p.rollbackEdits, undone⟩ ∉ editAttempts events) ∧
      documentAfter p.uri content (editAttempts events) = content) ∨
    ∃ undone, (∀ answer, ⟨p.uri, p.rollbackEdits, answer⟩ ∈ editAttempts events ↔
        answer = undone) ∧
      documentAfter p.uri content (editAttempts events) =
        documentAfter p.uri site.edited [⟨p.uri, p.rollbackEdits, undone⟩] := by
  have hrp := p.rollbackEdits_ne_provisionalEdits
  have hrf := (p.finalEdits_ne_rollbackEdits (m := members) (c := closing)).symm
  cases h with
  | declined =>
    refine .inl ⟨by simp [hrp], ?_⟩
    simp [EditAttempt.update_of_refused]
  | withdrawn answer undone =>
    refine .inr ⟨undone, by simp [hrp], ?_⟩
    simp only [editAttempts_edit_cons, editAttempts_completion_cons, editAttempts_nil,
      documentAfter_proposed site]
  | refused labels hmembers hne answer undone hanswer =>
    refine .inr ⟨undone, by simp [hrp, hrf], ?_⟩
    simp only [editAttempts_edit_cons, editAttempts_completion_cons, editAttempts_nil,
      documentAfter_proposed site]
    -- the final edits were not applied, so the rollback meets the proposal as it was
    rw [documentAfter_cons, EditAttempt.update_of_refused _ _ hanswer]

theorem restored (site : p.Site content) (h : Ending p closing members events (.ok .aborted))
    (hundone : ∀ answer, ⟨p.uri, p.rollbackEdits, answer⟩ ∈ editAttempts events →
      answer = .ok true) :
    documentAfter p.uri content (editAttempts events) = content := by
  rcases aborted_cases site h with ⟨-, hdoc⟩ | ⟨undone, hmem, hdoc⟩
  · exact hdoc
  · have htrue : undone = .ok true := hundone undone ((hmem undone).mpr rfl)
    rw [hdoc, htrue, documentAfter_cons, EditAttempt.update_of_applied, documentAfter_nil]
    exact site.apply_rollbackEdits

theorem stranded (site : p.Site content) (h : Ending p closing members events (.ok .aborted))
    (hrefused : ∃ answer, answer ≠ .ok true ∧
      ⟨p.uri, p.rollbackEdits, answer⟩ ∈ editAttempts events) :
    documentAfter p.uri content (editAttempts events) =
      Buffer.apply content p.provisionalEdits := by
  obtain ⟨answer, hanswer, hin⟩ := hrefused
  rcases aborted_cases site h with ⟨hout, -⟩ | ⟨undone, hmem, hdoc⟩
  · exact absurd hin (hout answer)
  · have hundone : undone ≠ .ok true := (hmem answer).mp hin ▸ hanswer
    rw [hdoc, documentAfter_cons, EditAttempt.update_of_refused _ _ hundone, documentAfter_nil]
    exact site.apply_provisionalEdits.symm

theorem written (content : Text) (h : Ending p closing members events (.ok (.committed members))) :
    members ≠ [] ∧ documentAfter p.uri content (editAttempts events) =
      Buffer.apply (Buffer.apply content p.provisionalEdits) (p.finalEdits members closing) := by
  cases h with
  | committed labels hmembers hne =>
    refine ⟨hne, ?_⟩
    simp only [editAttempts_edit_cons, editAttempts_completion_cons, editAttempts_nil,
      documentAfter_cons, documentAfter_nil, EditAttempt.update_of_applied]

theorem eq_aborted (h : Ending p closing members events state)
    (hstate : ∃ name', state.map (FixOutcome.ofState n) = .ok (.aborted name')) :
    state = .ok .aborted := by
  rcases h.state_cases with ⟨e, rfl⟩ | rfl | rfl
  · simp [Except.map] at hstate
  · rfl
  · simp [Except.map, FixOutcome.ofState] at hstate

theorem eq_committed {name : Text} {written : List Text}
    (h : Ending p closing members events state)
    (hstate : state.map (FixOutcome.ofState n) = .ok (.committed name written)) :
    state = .ok (.committed members) ∧ name = n ∧ written = members := by
  rcases h.state_cases with ⟨e, rfl⟩ | rfl | rfl
  · simp [Except.map] at hstate
  · simp [Except.map, FixOutcome.ofState] at hstate
  · simp only [Except.map, FixOutcome.ofState, Except.ok.injEq, FixOutcome.committed.injEq] at hstate
    exact ⟨rfl, hstate.1.symm, hstate.2.symm⟩

theorem document_cases (site : p.Site content) (h : Ending p closing members events state) :
    documentAfter p.uri content (editAttempts events) = content ∨
      documentAfter p.uri content (editAttempts events) =
        Buffer.apply content p.provisionalEdits ∨
      documentAfter p.uri content (editAttempts events) =
        Buffer.apply (Buffer.apply content p.provisionalEdits) (p.finalEdits members closing) := by
  rcases h.state_cases with ⟨e, rfl⟩ | rfl | rfl
  · exact .inl (documentAfter_of_untouched (h.untouched (n := []) (.inr ⟨e, rfl⟩)) _ _)
  · by_cases hrefused : ∃ answer, answer ≠ .ok true ∧
        ⟨p.uri, p.rollbackEdits, answer⟩ ∈ editAttempts events
    · exact .inr (.inl (h.stranded site hrefused))
    · refine .inl (h.restored site fun answer hin => ?_)
      exact Classical.byContradiction fun hanswer => hrefused ⟨answer, hanswer, hin⟩
  · exact .inr (.inr (h.written content).2)

theorem transaction (site : p.Site content) (h : Ending p closing members events state) :
    Transaction p (p.finalEdits members closing) content (editAttempts events)
      (state.map (FixOutcome.ofState n)) where
  calls := .inr h.calls_cases
  committed_iff := h.committed_iff
  not_rolled_back := h.not_rolled_back
  untouched := h.untouched
  restored := by
    intro hstate
    obtain rfl := h.eq_aborted hstate
    exact h.restored site
  stranded := by
    intro hstate
    obtain rfl := h.eq_aborted hstate
    exact h.stranded site
  document := h.document_cases site

theorem completion_of_final (h : Ending p closing members events state)
    (hfinal : (p.uri, p.finalEdits members closing) ∈
      (editAttempts events).map EditAttempt.call) :
    members ≠ [] ∧ ∃ labels, .completion p.uri p.completionAt (.ok labels) ∈ events ∧
      Cases.distinctMembers labels = members := by
  have hfp := p.finalEdits_ne_provisionalEdits (m := members) (c := closing)
  have hfr := p.finalEdits_ne_rollbackEdits (m := members) (c := closing)
  cases h with
  | committed labels hmembers hne => exact ⟨hne, labels, by simp, hmembers⟩
  | refused labels hmembers hne answer undone hanswer => exact ⟨hne, labels, by simp, hmembers⟩
  | _ => simp [EditAttempt.call, hfp, hfr] at hfinal

end Ending

namespace Fix
variable {uri : Uri} {content : Text} {range : Range}

/-- The events of a run make one transaction: the edits in them are those of one
proposal, made for the header in the document, with the members that completion
offered. -/
def IsTransaction (uri : Uri) (content : Text) (range : Range) (events : List Event)
    (outcome : Except HostError FixOutcome) : Prop :=
  ∃ (p : Proposal) (members : List Text), p.uri = uri ∧ p.line = range.start.line ∧
    let final := p.finalEdits members (Closing.ofHeader p.header content p.line)
    (editAttempts events ≠ [] →
      headerOf content range = some p.header ∧ Text.isIdentifier p.enumName = true) ∧
    ((uri, final) ∈ (editAttempts events).map EditAttempt.call →
      members ≠ [] ∧ ∃ labels, .completion uri p.completionAt (.ok labels) ∈ events ∧
        Cases.distinctMembers labels = members) ∧
    Transaction p final content (editAttempts events) outcome

theorem isTransaction_nil {outcome : Except HostError FixOutcome}
    (h : outcome = .ok .notApplicable ∨ ∃ e, outcome = .error e) :
    IsTransaction uri content range [] outcome := by
  refine ⟨⟨uri, range.start.line, [], default⟩, [], rfl, rfl, by simp, by simp, ?_⟩
  exact {
    calls := .inl rfl
    committed_iff := by rcases h with rfl | ⟨e, rfl⟩ <;> simp
    not_rolled_back := by simp
    untouched := by simp
    restored := by simp
    stranded := by simp
    document := .inl rfl }

theorem isTransaction_append_of_queries {queries events : List Event}
    {outcome : Except HostError FixOutcome} (hqueries : ∀ e ∈ queries, e.call.IsQuery)
    (h : IsTransaction uri content range events outcome) :
    IsTransaction uri content range (queries ++ events) outcome := by
  obtain ⟨p, members, huri, hline, hheader, hfinal, htransaction⟩ := h
  rw [IsTransaction, editAttempts_append_of_queries hqueries]
  refine ⟨p, members, huri, hline, hheader, fun hasked => ?_, htransaction⟩
  obtain ⟨hne, labels, hlabels, hmembers⟩ := hfinal hasked
  exact ⟨hne, labels, List.mem_append_right _ hlabels, hmembers⟩

theorem isTransaction_of_sequel {resolved : Except HostError (Option ResolvedEnum)}
    {events : List Event} {outcome : Except HostError FixOutcome}
    (h : Sequel uri content range resolved events outcome) :
    IsTransaction uri content range events outcome := by
  cases h with
  | failed e => exact isTransaction_nil (.inr ⟨e, rfl⟩)
  | unresolved => exact isTransaction_nil (.inl rfl)
  | headerless r hheader => exact isTransaction_nil (.inl rfl)
  | proposed r hname header hheader members hend =>
    obtain ⟨site⟩ := nonempty_site uri hheader hname
    exact ⟨_, members, rfl, rfl, fun _ => ⟨hheader, hname⟩, hend.completion_of_final,
      hend.transaction site⟩

/-- A fix never leaves a half-made change, whatever the editor answers. -/
theorem isTransaction_addCases (editor : Editor) (uri : Uri) (content : Text) (range : Range)
    (settings : Settings) :
    let run := editor.converse (addCases uri content range settings).run
    IsTransaction uri content range run.2 run.1 := by
  intro run
  obtain ⟨queries, rest, resolved, hevents, hqueries, -, hsequel⟩ :=
    course_addCases (editor.course_converse (addCases uri content range settings).run)
  rw [show run.2 = queries ++ rest from hevents]
  exact isTransaction_append_of_queries hqueries (isTransaction_of_sequel hsequel)

end Fix
end CaseFill
