import CaseFill.Proofs.Resolve.Trace

/-! The verdict on a switch, and what keeping one report per range does to it. Main
statement: with an editor that never fails, the switch is over an enumeration exactly
when a report that is the first of its range leads to one. What a later report of the
same range leads to is lost, so the verdict is that of all reports as long as reports
of one range lead alike. -/
namespace CaseFill.Resolve
open Inquiry

def Leads (answers : Answers) (hit : Hit) : Prop := ∃ r, LeadsTo answers hit r

section
variable (reply : (call : Call) → call.Answer)

theorem succeeds_searchAround (name : Text) (places : List Location) :
    Succeeds (answering reply) (searchAround name places) := by
  induction places with
  | nil => exact succeeds_pure none
  | cons t rest ih =>
    refine succeeds_bind (succeeds_query reply _) fun symbols => ?_
    cases Symbol.find name .enum (some t.range) symbols with
    | some symbol => exact succeeds_pure _
    | none => exact ih

theorem succeeds_findEnum (definition : Location) (name : Text) :
    Succeeds (answering reply) (findEnum definition name) := by
  refine succeeds_bind (succeeds_query reply _) fun types => ?_
  cases types with
  | nil => exact succeeds_bind (succeeds_query reply _) fun symbols => succeeds_pure _
  | cons t rest => exact succeeds_searchAround reply name (t :: rest)

theorem succeeds_follow (hit : Hit) : Succeeds (answering reply) (follow hit) := by
  unfold follow
  split
  · exact succeeds_pure none
  · refine succeeds_bind (succeeds_query reply _) fun hovers => ?_
    cases nameFrom hovers hit.identifier with
    | none => exact succeeds_pure none
    | some name =>
      refine succeeds_bind (succeeds_findEnum reply hit.location name) fun place => ?_
      cases place with
      | none => exact succeeds_pure none
      | some place => exact succeeds_pure _

theorem exists_outcome_firstEnum_iff (hits : List Hit) :
    (∃ r, (firstEnum hits).outcome (answering reply) = .ok (some r)) ↔
      ∃ hit ∈ hits, Leads (answering reply) hit := by
  constructor
  · rintro ⟨r, h⟩
    obtain ⟨hit, hin, hleads⟩ := exists_leadsTo_of_firstEnum h
    exact ⟨hit, hin, r, hleads⟩
  · rintro ⟨hit, hin, hleads⟩
    induction hits with
    | nil => cases hin
    | cons first rest ih =>
      obtain ⟨found, hfound⟩ := succeeds_follow reply first
      cases found with
      | some r => exact ⟨r, outcome_bind_eq_ok_iff.mpr ⟨some r, hfound, rfl⟩⟩
      | none =>
        -- the first hit leads nowhere, so the one that does comes later
        have hrest : hit ∈ rest := by
          rcases List.mem_cons.mp hin with rfl | hin
          · obtain ⟨r, hr⟩ := hleads
            rw [outcome_follow_eq_some_iff.mpr hr] at hfound
            cases hfound
          · exact hin
        obtain ⟨r, hr⟩ := ih hrest
        exact ⟨r, outcome_bind_eq_ok_iff.mpr ⟨none, hfound, hr⟩⟩

end

variable {uri : Uri} {content : Text} {range : Range} {settings : Settings}

theorem exists_outcome_resolve_iff (reply : (call : Call) → call.Answer)
    (hkeyword : hasKeyword content range = true) :
    (∃ r, (resolve uri content range settings).outcome (answering reply) = .ok (some r)) ↔
      ∃ hit ∈ Sweep.keepFirst []
        (Sweep.reports (answering reply) uri content range settings.maxSweepPositions),
        Leads (answering reply) hit := by
  rw [← exists_outcome_firstEnum_iff, resolve, if_pos hkeyword]
  simp only [outcome_bind_eq_ok_iff]
  constructor
  · rintro ⟨r, hits, hhits, hr⟩
    cases hhits.symm.trans (Sweep.outcome_definitions reply _)
    exact ⟨r, hr⟩
  · rintro ⟨r, hr⟩
    exact ⟨r, _, Sweep.outcome_definitions reply _, hr⟩

theorem isEnumSwitch_eq_true_iff_outcome {editor : Editor} {answers : Answers}
    (hanswers : editor.AnswersAs answers) :
    (editor.converse (isEnumSwitch uri content range settings)).1 = true ↔
      ∃ r, (resolve uri content range settings).outcome answers = .ok (some r) := by
  obtain ⟨resolved, queries, rest, hevents, hresolve, hverdict⟩ :=
    Dialogue.course_bind_iff.mp (editor.course_converse (isEnumSwitch uri content range settings))
  obtain ⟨hqueries, -⟩ := always_resolve uri content range settings queries resolved hresolve
  have hresolved : resolved = (resolve uri content range settings).outcome answers := by
    refine hanswers.result_eq (d := isEnumSwitch uri content range settings) hresolve hqueries ?_
    intro e he
    rw [hevents]
    exact List.mem_append_left _ he
  rw [← hresolved]
  cases resolved with
  | error e => simp [hverdict.2]
  | ok found => simp [hverdict.2, Option.isSome_iff_exists]

theorem isEnumSwitch_eq_true_iff_first {reply : (call : Call) → call.Answer} {editor : Editor}
    (hanswers : editor.AnswersAs (answering reply)) (hkeyword : hasKeyword content range = true) :
    (editor.converse (isEnumSwitch uri content range settings)).1 = true ↔
      ∃ hit, Sweep.FirstOfRange
        (Sweep.reports (answering reply) uri content range settings.maxSweepPositions) hit ∧
        Leads (answering reply) hit := by
  rw [isEnumSwitch_eq_true_iff_outcome hanswers, exists_outcome_resolve_iff reply hkeyword]
  simp only [Sweep.mem_keepFirst_nil_iff]

/-- If reports of one range lead alike, nothing is lost with the later ones. -/
theorem exists_first_leads_iff {answers : Answers} {reports : List Hit}
    (halike : ∀ a ∈ reports, ∀ b ∈ reports, a.location.range = b.location.range →
      Leads answers a → Leads answers b) :
    (∃ hit, Sweep.FirstOfRange reports hit ∧ Leads answers hit) ↔
      ∃ hit ∈ reports, Leads answers hit := by
  constructor
  · rintro ⟨hit, hfirst, hleads⟩
    exact ⟨hit, hfirst.mem, hleads⟩
  · rintro ⟨hit, hin, hleads⟩
    obtain ⟨first, hfirst, hrange⟩ := Sweep.exists_firstOfRange_of_mem hin
    exact ⟨first, hfirst, halike hit hin first hfirst.mem hrange.symm hleads⟩

theorem exists_report_leads_iff {reply : (call : Call) → call.Answer} :
    (∃ hit ∈ Sweep.reports (answering reply) uri content range settings.maxSweepPositions,
      Leads (answering reply) hit) ↔
      ∃ p ∈ (Sweep.positions content range).take settings.maxSweepPositions,
      ∃ found : List Location, reply (.definition uri p) = found ∧ ∃ definition ∈ found,
        Leads (answering reply) ⟨definition, (Text.wordAt content p).getD []⟩ := by
  constructor
  · rintro ⟨hit, hin, hleads⟩
    obtain ⟨p, hp, found, hfound, hlocation, hidentifier⟩ := Sweep.mem_reports_iff.mp hin
    refine ⟨p, hp, found, Except.ok.inj hfound, hit.location, hlocation, ?_⟩
    rw [← hidentifier]
    exact hleads
  · rintro ⟨p, hp, found, hfound, definition, hin, hleads⟩
    exact ⟨⟨definition, (Text.wordAt content p).getD []⟩,
      Sweep.mem_reports_iff.mpr ⟨p, hp, found, congrArg Except.ok hfound, hin, rfl⟩, hleads⟩

/-- The switch is over an enumeration exactly when the first report of some range leads
to one. If reports of one range lead alike, it is enough that any report does. -/
theorem isEnumSwitch_eq_true_iff {reply : (call : Call) → call.Answer} {editor : Editor}
    (hanswers : editor.AnswersAs (answering reply))
    (hkeyword : ∃ line, Text.line? content range.start.line = some line ∧
      switchKeyword <:+: line) :
    let verdict := (editor.converse (isEnumSwitch uri content range settings)).1
    let reports := Sweep.reports (answering reply) uri content range settings.maxSweepPositions
    (verdict = true ↔ ∃ hit, Sweep.FirstOfRange reports hit ∧ Leads (answering reply) hit) ∧
    ((∀ a ∈ reports, ∀ b ∈ reports, a.location.range = b.location.range →
        Leads (answering reply) a → Leads (answering reply) b) →
      (verdict = true ↔
        ∃ p ∈ (Sweep.positions content range).take settings.maxSweepPositions,
        ∃ found : List Location, reply (.definition uri p) = found ∧ ∃ definition ∈ found,
          Leads (answering reply) ⟨definition, (Text.wordAt content p).getD []⟩)) := by
  intro verdict reports
  have hfirst : verdict = true ↔
      ∃ hit, Sweep.FirstOfRange reports hit ∧ Leads (answering reply) hit :=
    isEnumSwitch_eq_true_iff_first hanswers (hasKeyword_iff.mpr hkeyword)
  refine ⟨hfirst, fun halike => ?_⟩
  rw [hfirst, exists_first_leads_iff halike, exists_report_leads_iff]

theorem isEnumSwitch_eq_true_iff_palette :
    let content := "switch (c)".toList
    let range : Range := ⟨⟨0, 0⟩, ⟨0, 10⟩⟩
    (∃ line, Text.line? content range.start.line = some line ∧ switchKeyword <:+: line) ∧
      ∃ hit, Sweep.FirstOfRange (Sweep.reports (answering paletteReply) default content range
          Settings.standard.maxSweepPositions) hit ∧ Leads (answering paletteReply) hit := by
  intro content range
  have hkeyword : hasKeyword content range = true := by decide +kernel
  have hverdict : ((Editor.replying paletteReply).converse
      (isEnumSwitch default content range .standard)).1 = true := by
    decide +kernel
  have hline := hasKeyword_iff.mp hkeyword
  exact ⟨hline, (isEnumSwitch_eq_true_iff (Editor.answersAs_replying paletteReply)
    hline).1.mp hverdict⟩

def headerFile (name : String) : Uri := ⟨"file", some ⟨"", "", none⟩, .segments [name], none, none⟩

/-- The answers of an editor that knows two definitions of `c`, at the same range of two
documents. Only the second one is of an enumeration. -/
def twofoldReply : (call : Call) → call.Answer
  | .definition _ p =>
    if p = ⟨0, 8⟩ then
      [⟨headerFile "count.h", ⟨⟨3, 4⟩, ⟨3, 5⟩⟩⟩, ⟨headerFile "color.h", ⟨⟨3, 4⟩, ⟨3, 5⟩⟩⟩]
    else ([] : List Location)
  | .hover uri _ =>
    if uri = headerFile "color.h" then ["Color c".toList] else (["int c".toList] : List Text)
  | .typeDefinition _ _ => ([] : List Location)
  | .documentSymbol _ => ([⟨"Color".toList, .enum, ⟨⟨1, 0⟩, ⟨1, 20⟩⟩, []⟩] : List Symbol)
  | .completion _ _ => ([] : List Text)
  | .edit _ _ => false

/-- A report that leads to an enumeration by itself is lost behind one of the same range
in another document, and the verdict is that there is none. -/
theorem isEnumSwitch_eq_false_of_shared_range :
    let content := "switch (c)".toList
    let range : Range := ⟨⟨0, 0⟩, ⟨0, 10⟩⟩
    let editor := Editor.replying twofoldReply
    editor.AnswersAs (answering twofoldReply) ∧
      (∃ line, Text.line? content range.start.line = some line ∧ switchKeyword <:+: line) ∧
      (∃ p ∈ (Sweep.positions content range).take Settings.standard.maxSweepPositions,
        ∃ found : List Location, twofoldReply (.definition default p) = found ∧
        ∃ definition ∈ found,
          Leads (answering twofoldReply) ⟨definition, (Text.wordAt content p).getD []⟩) ∧
      (editor.converse (isEnumSwitch default content range .standard)).1 = false := by
  intro content range editor
  have hkeyword : hasKeyword content range = true := by decide +kernel
  have hfollow : ((follow ⟨⟨headerFile "color.h", ⟨⟨3, 4⟩, ⟨3, 5⟩⟩⟩, "c".toList⟩).outcome
      (answering twofoldReply)).toOption.join.isSome = true := by
    decide +kernel
  obtain ⟨r, hr⟩ := Option.isSome_iff_exists.mp hfollow
  have hleads := outcome_follow_eq_some_iff.mp (eq_ok_some_of_join hr)
  have hword : (Text.wordAt content ⟨0, 8⟩).getD [] = "c".toList := by decide +kernel
  refine ⟨Editor.answersAs_replying twofoldReply, hasKeyword_iff.mp hkeyword,
    ⟨⟨0, 8⟩, by decide +kernel, _, rfl, ⟨headerFile "color.h", ⟨⟨3, 4⟩, ⟨3, 5⟩⟩⟩, ?_, r, ?_⟩,
    by decide +kernel⟩
  · exact List.mem_cons_of_mem _ List.mem_cons_self
  · rw [hword]
    exact hleads

end CaseFill.Resolve
