import CaseFill.Buffer
import CaseFill.Host.Dialogue

/-! What can happen between a dialogue and an editor. A course lists the calls of
one run with the answers they met. Main statements: a course of two dialogues in
a row is a course of the first followed by one of the second, and every editor,
whatever it answers and whatever its answers depend on, leads a dialogue along
one of its courses. An edit changes its document exactly when the editor answers
that it was applied; questions change nothing. -/
namespace CaseFill

def Call.IsQuery : Call → Prop
  | .edit _ _ => False
  | _ => True

structure Event where
  call : Call
  answer : Except HostError call.Answer

structure EditAttempt where
  uri : Uri
  edits : List TextEdit
  answer : Except HostError Bool

namespace Event

def edit (a : EditAttempt) : Event := ⟨.edit a.uri a.edits, a.answer⟩

def completion (uri : Uri) (place : Position) (answer : Except HostError (List Text)) : Event :=
  ⟨.completion uri place, answer⟩

def edit? : Event → Option EditAttempt
  | ⟨.edit uri edits, answer⟩ => some ⟨uri, edits, answer⟩
  | _ => none

end Event

def editAttempts (events : List Event) : List EditAttempt := events.filterMap Event.edit?

@[simp] theorem editAttempts_nil : editAttempts [] = [] := rfl

@[simp] theorem editAttempts_edit_cons (a : EditAttempt) (rest : List Event) :
    editAttempts (.edit a :: rest) = a :: editAttempts rest := rfl

@[simp] theorem editAttempts_completion_cons (uri : Uri) (place : Position)
    (answer : Except HostError (List Text)) (rest : List Event) :
    editAttempts (.completion uri place answer :: rest) = editAttempts rest := rfl

theorem editAttempts_append_of_queries {queries : List Event} (h : ∀ e ∈ queries, e.call.IsQuery)
    (events : List Event) : editAttempts (queries ++ events) = editAttempts events := by
  have hnone : queries.filterMap Event.edit? = [] := by
    rw [List.filterMap_eq_nil_iff]
    rintro ⟨call, answer⟩ he
    have hquery := h _ he
    cases call with
    | edit uri edits => exact hquery.elim
    | _ => rfl
  rw [editAttempts, List.filterMap_append, hnone, List.nil_append, editAttempts]

namespace EditAttempt

def call (a : EditAttempt) : Uri × List TextEdit := (a.uri, a.edits)

def update (uri : Uri) (t : Text) (a : EditAttempt) : Text :=
  match a.answer with
  | .ok true => if a.uri = uri then Buffer.apply t a.edits else t
  | _ => t

theorem update_of_applied (uri : Uri) (t : Text) (edits : List TextEdit) :
    update uri t ⟨uri, edits, .ok true⟩ = Buffer.apply t edits := if_pos rfl

theorem update_of_refused (uri : Uri) (t : Text) {a : EditAttempt} (h : a.answer ≠ .ok true) :
    update uri t a = t := by
  unfold update
  split
  · next ha => exact absurd ha h
  · rfl

end EditAttempt

def documentAfter (uri : Uri) (t : Text) (attempts : List EditAttempt) : Text :=
  attempts.foldl (EditAttempt.update uri) t

@[simp] theorem documentAfter_nil (uri : Uri) (t : Text) : documentAfter uri t [] = t := rfl

@[simp] theorem documentAfter_cons (uri : Uri) (t : Text) (a : EditAttempt)
    (rest : List EditAttempt) :
    documentAfter uri t (a :: rest) = documentAfter uri (a.update uri t) rest := rfl

theorem documentAfter_of_untouched {attempts : List EditAttempt}
    (h : ∀ a ∈ attempts, a.answer ≠ .ok true) (uri : Uri) (t : Text) :
    documentAfter uri t attempts = t := by
  induction attempts with
  | nil => rfl
  | cons a rest ih =>
    rw [documentAfter_cons, EditAttempt.update_of_refused _ _ (h a List.mem_cons_self)]
    exact ih fun a ha => h a (List.mem_cons_of_mem _ ha)

namespace Dialogue
variable {α β : Type}

/-- The dialogue can make these calls, meet these answers and then end with this
result. No answer is excluded. -/
def Course : Dialogue α → List Event → α → Prop
  | done result, events, a => events = [] ∧ a = result
  | ask call next, events, a =>
    ∃ answer rest, events = ⟨call, answer⟩ :: rest ∧ Course (next answer) rest a

@[simp] theorem course_done {result a : α} {events : List Event} :
    Course (done result) events a ↔ events = [] ∧ a = result := Iff.rfl

@[simp] theorem course_ask {call : Call} {next : Except HostError call.Answer → Dialogue α}
    {events : List Event} {a : α} :
    Course (ask call next) events a ↔
      ∃ answer rest, events = ⟨call, answer⟩ :: rest ∧ Course (next answer) rest a := Iff.rfl

theorem course_bind_iff {d : Dialogue α} {f : α → Dialogue β} {events : List Event} {b : β} :
    Course (d >>= f) events b ↔
      ∃ a first second, events = first ++ second ∧ Course d first a ∧ Course (f a) second b := by
  induction d generalizing events with
  | done result =>
    constructor
    · intro h
      exact ⟨result, [], events, rfl, ⟨rfl, rfl⟩, h⟩
    · rintro ⟨a, _, second, rfl, ⟨rfl, rfl⟩, hf⟩
      exact hf
  | ask call next ih =>
    simp only [ask_bind, course_ask, ih]
    constructor
    · rintro ⟨answer, rest, rfl, a, first, second, rfl, hd, hf⟩
      exact ⟨a, _, second, (List.cons_append ..).symm, ⟨answer, first, rfl, hd⟩, hf⟩
    · rintro ⟨a, _, second, rfl, ⟨answer, first, rfl, hd⟩, hf⟩
      exact ⟨answer, first ++ second, rfl, a, first, second, rfl, hd, hf⟩

@[simp] theorem course_attempt {call : Call} {events : List Event}
    {a : Except HostError call.Answer} :
    Course (attempt call) events a ↔ events = [⟨call, a⟩] := by
  simp only [attempt, course_ask, course_done]
  constructor
  · rintro ⟨answer, rest, rfl, rfl, rfl⟩
    rfl
  · rintro rfl
    exact ⟨a, [], rfl, rfl, rfl⟩

theorem Course.result_eq {d : Dialogue α} {events : List Event} {a : α}
    {f : (call : Call) → Except HostError call.Answer} (h : Course d events a)
    (hf : ∀ e ∈ events, e.answer = f e.call) : a = d.run (m := Id) f := by
  induction d generalizing events with
  | done result => exact h.2
  | ask call next ih =>
    obtain ⟨answer, rest, rfl, hrest⟩ := h
    have ha : answer = f call := hf _ List.mem_cons_self
    rw [ih answer hrest fun e he => hf e (List.mem_cons_of_mem _ he), ha]
    rfl

end Dialogue

namespace Inquiry
open Dialogue
variable {α β : Type}

@[simp] theorem course_query {call : Call} {events : List Event}
    {r : Except HostError call.Answer} :
    Course (query call).run events r ↔ events = [⟨call, r⟩] := course_attempt

@[simp] theorem course_lift {d : Dialogue α} {events : List Event} {r : Except HostError α} :
    Course (ExceptT.lift d).run events r ↔ ∃ a, Course d events a ∧ r = .ok a := by
  change Course (d >>= fun a => done (Except.ok a)) events r ↔ _
  rw [course_bind_iff]
  constructor
  · rintro ⟨a, first, second, rfl, hd, rfl, rfl⟩
    exact ⟨a, by simpa using hd, rfl⟩
  · rintro ⟨a, hd, rfl⟩
    exact ⟨a, events, [], by simp, hd, rfl, rfl⟩

theorem course_bind_iff {x : Inquiry α} {f : α → Inquiry β} {events : List Event}
    {r : Except HostError β} :
    Course (x >>= f).run events r ↔
      (∃ e, Course x.run events (.error e) ∧ r = .error e) ∨
        ∃ a first second, events = first ++ second ∧ Course x.run first (.ok a) ∧
          Course (f a).run second r := by
  rw [ExceptT.run_bind, Dialogue.course_bind_iff]
  constructor
  · rintro ⟨a, first, second, rfl, hx, hf⟩
    cases a with
    | error e =>
      obtain ⟨rfl, rfl⟩ := hf
      exact .inl ⟨e, by simpa using hx, rfl⟩
    | ok a => exact .inr ⟨a, first, second, rfl, hx, hf⟩
  · rintro (⟨e, hx, rfl⟩ | ⟨a, first, second, rfl, hx, hf⟩)
    · exact ⟨.error e, events, [], by simp, hx, rfl, rfl⟩
    · exact ⟨.ok a, first, second, rfl, hx, hf⟩

/-- Whatever is answered, all calls of the inquiry satisfy `P`, and so does its
result `Q` if it has one. -/
def Always (P : Call → Prop) (Q : α → Prop) (x : Inquiry α) : Prop :=
  ∀ events r, Course x.run events r → (∀ e ∈ events, P e.call) ∧ ∀ a, r = .ok a → Q a

variable {P : Call → Prop} {Q : α → Prop} {R : β → Prop}

theorem always_pure {a : α} (h : Q a) : Always P Q (pure a) := by
  rintro events r ⟨rfl, rfl⟩
  refine ⟨by simp, ?_⟩
  rintro b hb
  cases hb
  exact h

theorem always_query {call : Call} {Q : call.Answer → Prop} (hc : P call) (hq : ∀ a, Q a) :
    Always P Q (query call) := by
  intro events r h
  rw [course_query] at h
  subst h
  exact ⟨by simpa using hc, fun a _ => hq a⟩

theorem always_bind {x : Inquiry α} {f : α → Inquiry β} (hx : Always P Q x)
    (hf : ∀ a, Q a → Always P R (f a)) : Always P R (x >>= f) := by
  intro events r h
  rcases course_bind_iff.mp h with ⟨e, he, rfl⟩ | ⟨a, first, second, rfl, ha, hb⟩
  · exact ⟨(hx events _ he).1, by simp⟩
  · obtain ⟨hfirst, hqa⟩ := hx first _ ha
    obtain ⟨hsecond, hr⟩ := hf a (hqa a rfl) second r hb
    refine ⟨?_, hr⟩
    intro e he
    rcases List.mem_append.mp he with he | he
    · exact hfirst e he
    · exact hsecond e he

end Inquiry

/-- An editor. Its answer to a call may depend on all that happened before, so
every way in which an editor can behave in one run is of this form. -/
abbrev Editor := List Event → (call : Call) → Except HostError call.Answer

namespace Editor
variable {α : Type}

def respond (editor : Editor) (call : Call) :
    StateM (List Event) (Except HostError call.Answer) :=
  fun past => (editor past call, past ++ [⟨call, editor past call⟩])

/-- The result of a dialogue with the editor, and all that happened on the way. -/
def converse (editor : Editor) (d : Dialogue α) : α × List Event :=
  (d.run editor.respond).run []

/-- A run takes one of the courses of the dialogue, and its answers are the
editor's. -/
theorem course_run (editor : Editor) (d : Dialogue α) (past : List Event) :
    ∃ events, (d.run editor.respond past).2 = past ++ events ∧
      d.Course events (d.run editor.respond past).1 ∧
      ∀ e ∈ events, ∃ before, e.answer = editor before e.call := by
  induction d generalizing past with
  | done result => exact ⟨[], (List.append_nil past).symm, ⟨rfl, rfl⟩, by simp⟩
  | ask call next ih =>
    obtain ⟨events, hs, hc, ha⟩ := ih (editor past call) (past ++ [⟨call, editor past call⟩])
    refine ⟨⟨call, editor past call⟩ :: events, ?_, ⟨_, events, rfl, hc⟩, ?_⟩
    · exact hs.trans (by simp)
    · intro e he
      rcases List.mem_cons.mp he with rfl | he
      · exact ⟨past, rfl⟩
      · exact ha e he

theorem course_converse (editor : Editor) (d : Dialogue α) :
    d.Course (editor.converse d).2 (editor.converse d).1 := by
  obtain ⟨events, hs, hc, -⟩ := editor.course_run d []
  have he : (editor.converse d).2 = events := hs
  rw [he]
  exact hc

theorem answer_of_mem {editor : Editor} {d : Dialogue α} {e : Event}
    (he : e ∈ (editor.converse d).2) : ∃ before, e.answer = editor before e.call := by
  obtain ⟨events, hs, -, ha⟩ := editor.course_run d []
  have hs' : (editor.converse d).2 = events := hs
  rw [hs'] at he
  exact ha e he

/-- The editor's answers to questions are a function of the question. Its answers
to edits may depend on anything. -/
def AnswersAs (editor : Editor) (answers : (call : Call) → Except HostError call.Answer) : Prop :=
  ∀ past call, call.IsQuery → editor past call = answers call

/-- What questions lead to is determined by the answers, whenever they are asked. -/
theorem AnswersAs.result_eq {β : Type} {editor : Editor}
    {answers : (call : Call) → Except HostError call.Answer} (h : editor.AnswersAs answers)
    {d : Dialogue α} {part : Dialogue β} {queries : List Event} {b : β}
    (hcourse : part.Course queries b) (hqueries : ∀ e ∈ queries, e.call.IsQuery)
    (hsub : ∀ e ∈ queries, e ∈ (editor.converse d).2) : b = part.run (m := Id) answers := by
  refine hcourse.result_eq fun e he => ?_
  obtain ⟨past, hpast⟩ := answer_of_mem (hsub e he)
  rw [hpast]
  exact h past e.call (hqueries e he)

/-- An editor that knows one name: where it stands and is defined, its hover, the
symbols around its definition, and what completes a label. It obeys every edit. -/
def knowing (place : Position) (found : Location) (hover : Text) (symbols : List Symbol)
    (labels : List Text) : Editor := fun _ call =>
  match call with
  | .definition _ p => .ok (if p = place then [found] else [])
  | .hover _ _ => .ok [hover]
  | .typeDefinition _ _ => .ok []
  | .documentSymbol _ => .ok symbols
  | .completion _ _ => .ok labels
  | .edit _ _ => .ok true

end Editor
end CaseFill
