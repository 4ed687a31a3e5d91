import CaseFill.Proofs.Fix.Transaction
import CaseFill.Server

/-! Offers and what becomes of them. The offer and the command resolve the switch
independently of each other. Main statement: in the same state and with the same
answers, the command of an offer makes its proposal exactly when the keyword is a
whole word on the offered line. -/
namespace CaseFill
open Dialogue (Course)

namespace Server
variable {s : Server} {uri : Uri} {range : Range} {events : List Event}

theorem course_codeAction {requested : Range} {title : String} {target : Uri}
    (h : Course (s.codeAction uri requested) events (.fix title target range)) :
    ∃ doc r, s.documents.get? uri.text = some doc ∧ target = uri ∧ s.hasHost = true ∧
      Resolve.hasKeyword doc.text range = true ∧
      Course (Resolve.resolve uri doc.text range s.settings).run events (.ok (some r)) := by
  unfold codeAction at h
  cases hdoc : s.documents.get? uri.text with
  | none =>
    rw [hdoc] at h
    cases h.2
  | some doc =>
    rw [hdoc] at h
    dsimp only at h
    split at h
    · next hgate =>
      simp only [Bool.and_eq_true] at hgate
      obtain ⟨found, first, second, rfl, hfound, hrest⟩ := Dialogue.course_bind_iff.mp h
      obtain ⟨resolved, queries, rest, rfl, hresolve, hverdict⟩ :=
        Dialogue.course_bind_iff.mp hfound
      cases found with
      | false => cases hrest.2
      | true =>
        obtain ⟨rfl, hfix⟩ := hrest
        cases hfix
        cases resolved with
        | error e => cases hverdict.2
        | ok resolved =>
          obtain ⟨rfl, hsome⟩ := hverdict
          obtain ⟨r, rfl⟩ := Option.isSome_iff_exists.mp hsome.symm
          refine ⟨doc, r, rfl, rfl, hgate.2, hgate.1.2, ?_⟩
          simpa using hresolve
    · cases h.2

theorem course_addCases {arguments : List Json} {doc : Document} {outcome : Option FixOutcome}
    (h : Course (s.addCases arguments) events outcome)
    (harguments : commandArguments arguments = some (uri, range))
    (hdoc : s.documents.get? uri.text = some doc) (hhost : s.hasHost = true) :
    ∃ result, Course (Fix.addCases uri doc.text range s.settings).run events result ∧
      outcome = result.toOption := by
  unfold addCases at h
  rw [harguments] at h
  dsimp only at h
  rw [hdoc] at h
  dsimp only at h
  rw [if_pos hhost] at h
  obtain ⟨result, first, second, rfl, hresult, hrest⟩ := Dialogue.course_bind_iff.mp h
  cases result with
  | error e =>
    obtain ⟨rfl, rfl⟩ := hrest
    exact ⟨.error e, by simpa using hresult, rfl⟩
  | ok o =>
    obtain ⟨rfl, rfl⟩ := hrest
    exact ⟨.ok o, by simpa using hresult, rfl⟩

/-- The command of an offer comes to the enumeration that the offer found: both
passes put the same questions, and the questions before the first edit have the
same answers. -/
theorem sequel_of_codeAction
    {answers : (call : Call) → Except HostError call.Answer} {editor later : Editor}
    (hanswers : editor.AnswersAs answers) (hlater : later.AnswersAs answers)
    {requested : Range} {title : String} {target : Uri} {arguments : List Json}
    (hoffer : (editor.converse (s.codeAction uri requested)).1 = .fix title target range)
    (harguments : commandArguments arguments = some (target, range)) :
    ∃ doc line r result rest, s.documents.get? target.text = some doc ∧
      Text.line? doc.text range.start.line = some line ∧
      Fix.Sequel target doc.text range (.ok (some r)) rest result ∧
      editAttempts (later.converse (s.addCases arguments)).2 = editAttempts rest ∧
      (later.converse (s.addCases arguments)).1 = result.toOption := by
  have hoffered := editor.course_converse (s.codeAction uri requested)
  rw [hoffer] at hoffered
  obtain ⟨doc, r, hdoc, rfl, hhost, hkeyword, hresolve⟩ := course_codeAction hoffered
  have hqueries := (Resolve.always_resolve target doc.text range s.settings _ _ hresolve).1
  -- both resolutions end as the answers say
  have hfirst := hanswers.result_eq hresolve hqueries fun e he => he
  obtain ⟨result, hresult, houtcome⟩ :=
    course_addCases (later.course_converse (s.addCases arguments)) harguments hdoc hhost
  obtain ⟨queries, rest, resolved, hevents, hqueries', hresolve', hsequel⟩ :=
    Fix.course_addCases hresult
  have hsecond := hlater.result_eq hresolve' hqueries' fun e he =>
    hevents ▸ List.mem_append_left _ he
  obtain rfl : resolved = .ok (some r) := hsecond.trans hfirst.symm
  rw [hevents, editAttempts_append_of_queries hqueries']
  cases hline : Text.line? doc.text range.start.line with
  | none =>
    rw [Resolve.hasKeyword, hline] at hkeyword
    cases hkeyword
  | some line => exact ⟨doc, line, r, result, rest, hdoc, hline, hsequel, rfl, houtcome⟩

/-- The command of an offer, carried out in the same state by an editor that
answers questions in the same way, makes its proposal if the keyword is a whole
word on the offered line, and otherwise does nothing. -/
theorem addCases_of_codeAction
    {answers : (call : Call) → Except HostError call.Answer} {editor later : Editor}
    (hanswers : editor.AnswersAs answers) (hlater : later.AnswersAs answers)
    {requested : Range} {title : String} {target : Uri}
    (hoffer : (editor.converse (s.codeAction uri requested)).1 = .fix title target range)
    (huri : Protocol.uri (Protocol.uriJson target) = some target)
    (hrange : Protocol.range (Protocol.rangeJson range) = some range) :
    let run := later.converse (s.addCases [Protocol.uriJson target, Protocol.rangeJson range])
    ∃ doc line, s.documents.get? target.text = some doc ∧
      Text.line? doc.text range.start.line = some line ∧
      (Text.HasWord switchKeyword line →
        ∃ (p : Proposal) (answer : Except HostError Bool) (rest : List EditAttempt),
          p.uri = target ∧ p.line = range.start.line ∧ Header.inspect line = some p.header ∧
          editAttempts run.2 = ⟨target, p.provisionalEdits, answer⟩ :: rest ∧
          ((∃ members, run.1 = some (.committed p.enumName members)) ∨
            run.1 = some (.aborted p.enumName) ∨ (∃ e, answer = .error e) ∧ run.1 = none)) ∧
      (¬Text.HasWord switchKeyword line →
        editAttempts run.2 = [] ∧ run.1 = some .notApplicable) := by
  intro run
  have harguments : commandArguments [Protocol.uriJson target, Protocol.rangeJson range] =
      some (target, range) := by
    simp [commandArguments, huri, hrange]
  obtain ⟨doc, line, r, result, rest, hdoc, hline, hsequel, hmade, houtcome⟩ :=
    sequel_of_codeAction hanswers hlater hoffer harguments
  have hheaderOf : Fix.headerOf doc.text range = Header.inspect line := by
    rw [Fix.headerOf, hline, Option.bind_some]
  refine ⟨doc, line, hdoc, hline, ?_, ?_⟩
  · intro hword
    have hsome := (Header.isSome_inspect_iff line).mpr hword
    cases hsequel with
    | headerless r h =>
      rw [← hheaderOf, h] at hsome
      cases hsome
    | proposed r hname header h members hend =>
      obtain ⟨answer, others, hfirst, hstate⟩ := hend.provisional_first
      refine ⟨_, answer, others, rfl, rfl, hheaderOf.symm.trans h, hmade.trans hfirst, ?_⟩
      rcases hstate with ⟨e, rfl, rfl⟩ | rfl | rfl
      · exact .inr (.inr ⟨⟨e, rfl⟩, houtcome⟩)
      · exact .inr (.inl houtcome)
      · exact .inl ⟨members, houtcome⟩
  · intro hword
    cases hsequel with
    | headerless r h => exact ⟨hmade, houtcome⟩
    | proposed r hname header h members hend =>
      have hsome : (Header.inspect line).isSome = true := by
        rw [← hheaderOf, h]
        rfl
      exact absurd ((Header.isSome_inspect_iff line).mp hsome) hword

def paintUri : Uri := ⟨"file", some ⟨"", "", none⟩, .segments ["paint.cpp"], none, none⟩

def paintEditor (column : Nat) : Editor :=
  .knowing ⟨0, column⟩ ⟨paintUri, ⟨⟨9, 6⟩, ⟨9, 7⟩⟩⟩ "Color c".toList
    [⟨"Color".toList, .enum, ⟨⟨8, 0⟩, ⟨8, 20⟩⟩, []⟩] ["Red".toList]

theorem answersAs_paintEditor (column : Nat) :
    (paintEditor column).AnswersAs (paintEditor column []) := fun _ _ _ => rfl

def paintServer (text : Text) : Server :=
  ((paintEditor 0).converse (handle (fun _ => .missing) (fresh none none true)
    (.opened paintUri "cpp" text))).1.server

/-- A bare cursor on a whole `switch`: the fix is offered, and it makes its proposal. -/
theorem addCases_of_codeAction_whole_word :
    let editor := paintEditor 8
    let s := paintServer "switch (c)".toList
    let range : Range := ⟨⟨0, 0⟩, ⟨0, 10⟩⟩
    (editor.converse (s.codeAction paintUri ⟨⟨0, 3⟩, ⟨0, 3⟩⟩)).1 =
        .fix s.settings.actionTitle paintUri range ∧
      Protocol.uri (Protocol.uriJson paintUri) = some paintUri ∧
      Protocol.range (Protocol.rangeJson range) = some range ∧
      ∃ (p : Proposal) (answer : Except HostError Bool) (rest : List EditAttempt),
        editAttempts (editor.converse
          (s.addCases [Protocol.uriJson paintUri, Protocol.rangeJson range])).2 =
            ⟨paintUri, p.provisionalEdits, answer⟩ :: rest := by
  intro editor s range
  have hoffer : (editor.converse (s.codeAction paintUri ⟨⟨0, 3⟩, ⟨0, 3⟩⟩)).1 =
      .fix s.settings.actionTitle paintUri range := by
    decide +kernel
  have huri : Protocol.uri (Protocol.uriJson paintUri) = some paintUri := by decide +kernel
  have hrange : Protocol.range (Protocol.rangeJson range) = some range := by decide +kernel
  refine ⟨hoffer, huri, hrange, ?_⟩
  have hanswers := answersAs_paintEditor 8
  obtain ⟨doc, line, hdoc, hline, hword, -⟩ :=
    addCases_of_codeAction hanswers hanswers hoffer huri hrange
  have hopen : s.documents.get? paintUri.text = some ⟨some "cpp", "switch (c)".toList⟩ := by
    decide +kernel
  obtain rfl := Option.some.inj (hopen.symm.trans hdoc)
  have hfirst : Text.line? "switch (c)".toList 0 = some "switch (c)".toList := by decide +kernel
  obtain rfl := Option.some.inj (hfirst.symm.trans hline)
  have hheader : (Header.inspect "switch (c)".toList).isSome = true := by decide +kernel
  obtain ⟨p, answer, rest, -, -, -, hmade, -⟩ := hword ((Header.isSome_inspect_iff _).mp hheader)
  exact ⟨p, answer, rest, hmade⟩

/-- A bare cursor on a longer word with the keyword in it: the fix is offered, but
the offer comes to nothing. -/
theorem notApplicable_of_codeAction_longer_word :
    let editor := paintEditor 13
    let s := paintServer "switch_count(c)".toList
    let range : Range := ⟨⟨0, 0⟩, ⟨0, 15⟩⟩
    editor.AnswersAs (editor []) ∧
      (editor.converse (s.codeAction paintUri ⟨⟨0, 3⟩, ⟨0, 3⟩⟩)).1 =
        .fix s.settings.actionTitle paintUri range ∧
      Protocol.uri (Protocol.uriJson paintUri) = some paintUri ∧
      Protocol.range (Protocol.rangeJson range) = some range ∧
      (editor.converse (s.addCases [Protocol.uriJson paintUri, Protocol.rangeJson range])).1 =
        some .notApplicable := by
  intro editor s range
  refine ⟨answersAs_paintEditor 13, ?_, ?_, ?_, ?_⟩
  · decide +kernel
  · decide +kernel
  · decide +kernel
  · decide +kernel

end Server
end CaseFill
