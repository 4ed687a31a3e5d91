import CaseFill.Proofs.Host.Course

/-! Editors whose answers to questions are a function of the question. An inquiry
that only asks is then a computation that may fail, and no more than that. Main
statement: a run against such an editor ends as the answers say, so inquiries can
be taken apart step by step without their events. -/
namespace CaseFill
variable {α β : Type}

abbrev Answers := (call : Call) → Except HostError call.Answer

theorem Dialogue.run_bind (answers : Answers) (d : Dialogue α) (f : α → Dialogue β) :
    (d >>= f).run (m := Id) answers =
      (f (d.run (m := Id) answers)).run (m := Id) answers := by
  induction d with
  | done a => rfl
  | ask call next ih => exact ih (answers call)

namespace Inquiry
variable {answers : Answers}

def outcome (answers : Answers) (x : Inquiry α) : Except HostError α :=
  x.run.run (m := Id) answers

@[simp] theorem outcome_query (call : Call) : (query call).outcome answers = answers call := rfl

theorem outcome_bind (x : Inquiry α) (f : α → Inquiry β) :
    (x >>= f).outcome answers = (x.outcome answers).bind fun a => (f a).outcome answers := by
  have h := Dialogue.run_bind answers x.run (ExceptT.bindCont f)
  refine Eq.trans h ?_
  change Dialogue.run (m := Id) answers (ExceptT.bindCont f (x.outcome answers)) = _
  cases x.outcome answers with
  | error e => rfl
  | ok a => rfl

theorem outcome_bind_eq_ok_iff {x : Inquiry α} {f : α → Inquiry β} {b : β} :
    (x >>= f).outcome answers = .ok b ↔
      ∃ a, x.outcome answers = .ok a ∧ (f a).outcome answers = .ok b := by
  rw [outcome_bind]
  cases x.outcome answers with
  | error e => simp [Except.bind]
  | ok a => simp [Except.bind]

def Succeeds (answers : Answers) (x : Inquiry α) : Prop := ∃ a, x.outcome answers = .ok a

theorem succeeds_pure (a : α) : Succeeds answers (pure a) := ⟨a, rfl⟩

theorem succeeds_bind {x : Inquiry α} {f : α → Inquiry β} (hx : Succeeds answers x)
    (hf : ∀ a, Succeeds answers (f a)) : Succeeds answers (x >>= f) := by
  obtain ⟨a, ha⟩ := hx
  obtain ⟨b, hb⟩ := hf a
  exact ⟨b, outcome_bind_eq_ok_iff.mpr ⟨a, ha, hb⟩⟩

end Inquiry

def answering (reply : (call : Call) → call.Answer) : Answers := fun call => .ok (reply call)

theorem Inquiry.succeeds_query (reply : (call : Call) → call.Answer) (call : Call) :
    Succeeds (answering reply) (query call) := ⟨reply call, rfl⟩

theorem Editor.AnswersAs.converse_eq {editor : Editor} {answers : Answers}
    (h : editor.AnswersAs answers) {x : Inquiry α} {Q : α → Prop}
    (hx : Inquiry.Always Call.IsQuery Q x) :
    (editor.converse x.run).1 = x.outcome answers := by
  have hcourse := editor.course_converse x.run
  exact h.result_eq hcourse (hx _ _ hcourse).1 fun e he => he

def Editor.replying (reply : (call : Call) → call.Answer) : Editor := fun _ => answering reply

theorem Editor.answersAs_replying (reply : (call : Call) → call.Answer) :
    (replying reply).AnswersAs (answering reply) := fun _ _ _ => rfl

end CaseFill
