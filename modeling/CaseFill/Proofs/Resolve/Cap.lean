import CaseFill.Proofs.Resolve.Trace

/-! The cap of the sweep. Main statement: with an editor that never fails, a greater cap
only adds hits behind those of a smaller one, so it leaves every resolution as it was. -/
namespace CaseFill

namespace Sweep
variable {uri : Uri} {content : Text} {range : Range} {m n : Nat}

theorem reports_prefix (answers : Answers) (hcap : m ≤ n) :
    reports answers uri content range m <+: reports answers uri content range n := by
  obtain ⟨more, hmore⟩ :=
    (List.take_prefix_take_left hcap : (positions content range).take m <+: _)
  rw [reports, reports, ← hmore, List.flatMap_append]
  exact List.prefix_append ..

theorem keepFirst_prefix {few many : List Hit} (h : few <+: many) :
    keepFirst [] few <+: keepFirst [] many := by
  obtain ⟨more, rfl⟩ := h
  rw [keepFirst_append]
  exact prefix_keepFirst _ more

end Sweep

namespace Resolve
open Inquiry
variable {uri : Uri} {content : Text} {range : Range} {settings : Settings} {r : ResolvedEnum}

/-- What is found among the first hits is found before the others are looked at. -/
theorem outcome_firstEnum_of_prefix {answers : Answers} {few many : List Hit}
    (hfew : few <+: many) (h : (firstEnum few).outcome answers = .ok (some r)) :
    (firstEnum many).outcome answers = .ok (some r) := by
  induction few generalizing many with
  | nil => cases h
  | cons hit rest ih =>
    obtain ⟨more, rfl⟩ := hfew
    obtain ⟨found, hfound, hrest⟩ := outcome_bind_eq_ok_iff.mp h
    refine outcome_bind_eq_ok_iff.mpr ⟨found, hfound, ?_⟩
    cases found with
    | some first => exact hrest
    | none => exact ih (List.prefix_append rest more) hrest

theorem outcome_resolve_of_cap_le (reply : (call : Call) → call.Answer) {m n : Nat}
    (hcap : m ≤ n)
    (h : (resolve uri content range { settings with maxSweepPositions := m }).outcome
      (answering reply) = .ok (some r)) :
    (resolve uri content range { settings with maxSweepPositions := n }).outcome
      (answering reply) = .ok (some r) := by
  rw [resolve] at h ⊢
  split at h
  · next hkeyword =>
    obtain ⟨few, hfew, hfirst⟩ := outcome_bind_eq_ok_iff.mp h
    cases (Sweep.outcome_definitions reply m).symm.trans hfew
    rw [if_pos hkeyword]
    refine outcome_bind_eq_ok_iff.mpr ⟨_, Sweep.outcome_definitions reply n, ?_⟩
    exact outcome_firstEnum_of_prefix
      (Sweep.keepFirst_prefix (Sweep.reports_prefix _ hcap)) hfirst
  · cases h

/-- A greater cap adds hits only behind those of a smaller one, and what was resolved with
the smaller one is resolved to the same enumeration. -/
theorem resolve_of_cap_le {reply : (call : Call) → call.Answer} {editor : Editor}
    (hanswers : editor.AnswersAs (answering reply)) (uri : Uri) (content : Text) (range : Range)
    (settings : Settings) {m n : Nat} (hcap : m ≤ n) :
    (∃ few many,
      (editor.converse (Sweep.definitions uri content range m).run).1 = .ok few ∧
      (editor.converse (Sweep.definitions uri content range n).run).1 = .ok many ∧
      few <+: many) ∧
    ∀ r,
      (editor.converse
        (resolve uri content range { settings with maxSweepPositions := m }).run).1 =
          .ok (some r) →
      (editor.converse
        (resolve uri content range { settings with maxSweepPositions := n }).run).1 =
          .ok (some r) := by
  have hsweep : ∀ cap, (editor.converse (Sweep.definitions uri content range cap).run).1 =
      .ok (Sweep.keepFirst [] (Sweep.reports (answering reply) uri content range cap)) := by
    intro cap
    have houtcome := hanswers.converse_eq
      (always_sweepRows uri content cap (Sweep.rows content range) [])
    exact houtcome.trans (Sweep.outcome_definitions reply cap)
  refine ⟨⟨_, _, hsweep m, hsweep n, ?_⟩, ?_⟩
  · exact Sweep.keepFirst_prefix (Sweep.reports_prefix _ hcap)
  · intro r h
    rw [hanswers.converse_eq (always_resolve uri content range _)] at h ⊢
    exact outcome_resolve_of_cap_le reply hcap h

/-- Nine positions reach the switched variable, and twenty find nothing else. -/
theorem resolve_of_cap_le_palette :
    let content := "switch (c)".toList
    let range : Range := ⟨⟨0, 0⟩, ⟨0, 10⟩⟩
    let run := fun cap => (Editor.replying paletteReply).converse
      (resolve default content range { Settings.standard with maxSweepPositions := cap }).run
    (run 8).1.toOption.join.isNone = true ∧
      ∃ r, (run 9).1 = .ok (some r) ∧ (run 20).1 = .ok (some r) := by
  intro content range run
  have hnone : (run 8).1.toOption.join.isNone = true := by decide +kernel
  have hrun : (run 9).1.toOption.join.isSome = true := by decide +kernel
  obtain ⟨r, hr⟩ := Option.isSome_iff_exists.mp hrun
  have hnine := eq_ok_some_of_join hr
  have hcap := resolve_of_cap_le (Editor.answersAs_replying paletteReply) default content range
    .standard (m := 9) (n := 20) (by decide)
  exact ⟨hnone, r, hnine, hcap.2 r hnine⟩

end Resolve
end CaseFill
