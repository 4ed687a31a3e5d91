import CaseFill.Proofs.Fix.Braces
import CaseFill.Proofs.Proposal.Condition

/-! The punctuation that a fix puts in. Main statement: the provisional edits put in each
parenthesis and the opening brace once if the header line lacks it behind its keyword, and
not at all otherwise, in their order and in front of the body; and a committed fix that
puts in an opening brace puts in a closing one too. -/
namespace CaseFill

theorem Cases.count_template {c : Char} {name : Text} (hname : Text.isIdentifier name = true)
    (hc : Text.isIdentChar c = false) (hfixed : c ∉ caseOf [] []) :
    (template name).count c = 0 := by
  rw [List.count_eq_zero]
  intro hin
  -- a case begins with the template
  have hcase : c ∈ caseOf name [] := by
    rw [caseOf_eq, List.append_nil]
    exact List.mem_append_left _ hin
  rcases mem_caseOf hcase with hin | hin | hin
  · exact hfixed hin
  · rw [Text.isIdentChar_of_mem hname hin] at hc
    cases hc
  · cases hin

namespace Header
variable {line : Text} {h : Header} {keyword : Nat}

theorem needsOpenBrace_iff (hi : inspect line = some h)
    (hk : Text.findWord switchKeyword line = some keyword) :
    h.needsOpenBrace = true ↔ '\x7b' ∉ behind line keyword := by
  rw [inspect_eq_map, hk, Option.map_some, Option.some.injEq] at hi
  rw [← hi, findFrom_brace hk]
  split
  · next hin => simp [hin]
  · next hnot => simp [hnot]

end Header

namespace Proposal
variable {p : Proposal} {line : Text} {keyword : Nat}

def inserted (p : Proposal) : Text := p.provisionalEdits.flatMap TextEdit.newText

theorem inserted_eq (p : Proposal) :
    p.inserted = paren '(' p.header.openParenAt ++ paren ')' p.header.closeParenAt ++ p.text := by
  unfold inserted provisionalEdits
  cases p.header.openParenAt <;> cases p.header.closeParenAt <;>
    simp [paren, TextEdit.insertion]

theorem start_eq_stop_of_mem_provisionalEdits (p : Proposal) :
    ∀ e ∈ p.provisionalEdits, e.range.start = e.range.stop := by
  intro e he
  unfold provisionalEdits at he
  simp only [List.mem_append, Option.mem_toList, Option.map_eq_some_iff, List.mem_singleton] at he
  rcases he with (⟨c, -, rfl⟩ | ⟨c, -, rfl⟩) | rfl <;> rfl

/-- On both ways of the closing parenthesis the same characters go in. -/
theorem inserted_eq_lacking (hheader : Header.inspect line = some p.header)
    (hk : Text.findWord switchKeyword line = some keyword) :
    p.inserted = Text.lacking '(' (Header.behind line keyword) ++
      Text.lacking ')' (Header.behind line keyword) ++
      (if '\x7b' ∈ Header.behind line keyword then [] else [' ', '\x7b']) ++
      Cases.template p.enumName := by
  rw [inserted_eq, text, paren_openParenAt hheader hk]
  by_cases hb : '\x7b' ∈ Header.behind line keyword
  · obtain ⟨hclose, hpunctuation⟩ := (paren_closeParenAt hheader hk).1 hb
    rw [hclose, hpunctuation, if_pos hb, List.nil_append, List.append_nil]
  · obtain ⟨hclose, hpunctuation⟩ := (paren_closeParenAt hheader hk).2 hb
    rw [hclose, hpunctuation, if_neg hb, List.append_nil]
    simp only [List.append_assoc]

theorem count_inserted (hheader : Header.inspect line = some p.header)
    (hk : Text.findWord switchKeyword line = some keyword)
    (hname : Text.isIdentifier p.enumName = true) {c : Char}
    (hc : c = '(' ∨ c = ')' ∨ c = '\x7b' ∨ c = '\x7d') :
    p.inserted.count c = if c = '\x7d' ∨ c ∈ Header.behind line keyword then 0 else 1 := by
  have htemplate : (Cases.template p.enumName).count c = 0 := by
    rcases hc with rfl | rfl | rfl | rfl <;>
      exact Cases.count_template hname (by decide) (by decide)
  rw [inserted_eq_lacking hheader hk]
  generalize Header.behind line keyword = rest
  have hbrace : List.count c (if '\x7b' ∈ rest then [] else [' ', '\x7b']) =
      (Text.lacking '\x7b' rest).count c := by
    have hblank : ' ' ≠ c := by rcases hc with rfl | rfl | rfl | rfl <;> decide
    rw [Text.lacking]
    split
    · rfl
    · rw [List.count_cons_of_ne hblank]
  simp only [List.count_append, hbrace, Text.count_lacking, htemplate, Nat.add_zero]
  rcases hc with rfl | rfl | rfl | rfl <;> simp

/-- The provisional edits make up for what the line lacks behind its keyword, and do no
more: `rest` is the line there before and `written` after them. -/
structure Compensates (p : Proposal) (rest written : Text) : Prop where
  insertions : ∀ e ∈ p.provisionalEdits, e.range.start = e.range.stop
  count_missing : ∀ c, c = '(' ∨ c = ')' ∨ c = '\x7b' →
    p.inserted.count c = if c ∈ rest then 0 else 1
  count_close_brace : p.inserted.count '\x7d' = 0
  open_place : '(' ∉ rest → Header.StandsAlone '(' (rest.takeWhile Text.isBlank) written
  close_place : ')' ∉ rest → ∃ before, Header.StandsAlone ')' before written ∧
    ('(' ∉ rest → '(' ∈ before)

theorem compensates_of_completion {written : Text}
    (hheader : Header.inspect line = some p.header)
    (hk : Text.findWord switchKeyword line = some keyword)
    (hname : Text.isIdentifier p.enumName = true)
    (completion : Header.Completion (Header.behind line keyword) written) :
    p.Compensates (Header.behind line keyword) written where
  insertions := p.start_eq_stop_of_mem_provisionalEdits
  count_missing := by
    intro c hc
    have hne : c ≠ '\x7d' := by rcases hc with rfl | rfl | rfl <;> decide
    rw [count_inserted hheader hk hname (hc.imp_right (Or.imp_right .inl))]
    simp only [hne, false_or]
  count_close_brace := by
    rw [count_inserted hheader hk hname (.inr (.inr (.inr rfl))), if_pos (.inl rfl)]
  open_place := completion.open_standsAlone
  close_place := completion.close_standsAlone

theorem needsOpenBrace_of_mem_inserted (hheader : Header.inspect line = some p.header)
    (hname : Text.isIdentifier p.enumName = true) (h : '\x7b' ∈ p.inserted) :
    p.header.needsOpenBrace = true := by
  obtain ⟨keyword, hk⟩ := Header.exists_findWord_of_inspect hheader
  have hcount := count_inserted hheader hk hname (c := '\x7b') (.inr (.inr (.inl rfl)))
  rw [Header.needsOpenBrace_iff hheader hk]
  intro hin
  rw [if_pos (.inr hin), List.count_eq_zero] at hcount
  exact hcount h

end Proposal

namespace Fix
variable {content line : Text} {range : Range} {header : Header}

/-- The punctuation of a header is made up for, and over a committed run the closing brace
goes with the opening one. -/
theorem compensates_punctuation (uri : Uri)
    (hline : Text.line? content range.start.line = some line)
    (hheader : Header.inspect line = some header) :
    (∀ name, Text.isIdentifier name = true →
      let p : Proposal := ⟨uri, range.start.line, name, header⟩
      ∃ keyword written, Text.findWord switchKeyword line = some keyword ∧
        Buffer.lineOf (Buffer.apply content p.provisionalEdits) range.start.line =
          line.take (keyword + switchKeyword.length) ++ written ∧
        p.Compensates (line.drop (keyword + switchKeyword.length)) written) ∧
    ∀ (editor : Editor) (settings : Settings) (name : Text) (members : List Text),
      let run := editor.converse (addCases uri content range settings).run
      run.1 = .ok (.committed name members) →
      (∀ m ∈ members, '\x7b' ∉ m ∧ '\x7d' ∉ m) →
      let p : Proposal := ⟨uri, range.start.line, name, header⟩
      let doc := documentAfter uri content (editAttempts run.2)
      doc.count '\x7d' = content.count '\x7d' +
        (if Closing.ofHeader header content range.start.line = .brace then 1 else 0) ∧
      ('\x7b' ∈ p.inserted → doc.count '\x7d' = content.count '\x7d' + 1) := by
  refine ⟨?_, ?_⟩
  · intro name hname p
    obtain ⟨keyword, hk⟩ := Header.exists_findWord_of_inspect hheader
    obtain ⟨written, hwritten, ⟨completion⟩⟩ :=
      p.exists_completion hline hheader (Text.newline_notMem_of_isIdentifier hname) hk
    exact ⟨keyword, written, hk, hwritten,
      Proposal.compensates_of_completion hheader hk hname completion⟩
  · intro editor settings name members run hrun hmembers p doc
    obtain ⟨header', hheaderOf, -, hclose⟩ := count_braces_documentAfter editor hrun hmembers
    have hsame : header' = header := by
      rw [headerOf, hline, Option.bind_some, hheader] at hheaderOf
      exact (Option.some.inj hheaderOf).symm
    subst hsame
    refine ⟨hclose, fun hopened => ?_⟩
    obtain ⟨-, -, hname, -⟩ := exists_site_of_committed editor hrun
    have hneeds : header'.needsOpenBrace = true :=
      Proposal.needsOpenBrace_of_mem_inserted (p := p) hheader hname hopened
    rw [hclose, if_pos ((Closing.ofHeader_eq_brace_iff hheader _ _).mpr (.inl hneeds))]

theorem compensates_punctuation_bare_header :
    let content := "😀 switch c".toList
    let range : Range := ⟨⟨0, 0⟩, ⟨0, 11⟩⟩
    let editor := Editor.knowing ⟨0, 10⟩ ⟨default, ⟨⟨9, 6⟩, ⟨9, 7⟩⟩⟩ "Color c".toList
      [⟨"Color".toList, .enum, ⟨⟨8, 0⟩, ⟨8, 20⟩⟩, []⟩] ["Red".toList]
    let run := editor.converse (addCases default content range .standard).run
    let p : Proposal := ⟨default, 0, "Color".toList, ⟨some 10, true, none, true, none, 11⟩⟩
    let doc := documentAfter default content (editAttempts run.2)
    Text.line? content 0 = some content ∧ Header.inspect content = some p.header ∧
      run.1 = .ok (.committed p.enumName ["Red".toList]) ∧
      (∃ written, p.Compensates " c".toList written) ∧ '\x7b' ∈ p.inserted ∧
      doc.count '\x7d' = content.count '\x7d' + 1 := by
  intro content range editor run p doc
  have hline : Text.line? content range.start.line = some content := by decide +kernel
  have hheader : Header.inspect content = some p.header := by decide +kernel
  have hrun : run.1 = .ok (.committed p.enumName ["Red".toList]) := by decide +kernel
  have hopened : '\x7b' ∈ p.inserted := by decide +kernel
  have hplace : Text.findWord switchKeyword content = some 2 := by decide +kernel
  obtain ⟨hedits, hcommitted⟩ := compensates_punctuation default hline hheader
  obtain ⟨keyword, written, hk, -, hcompensates⟩ := hedits p.enumName (by decide +kernel)
  cases hplace.symm.trans hk
  obtain ⟨-, hclosed⟩ := hcommitted editor .standard p.enumName ["Red".toList] hrun
    (by decide +kernel)
  exact ⟨hline, hheader, hrun, ⟨written, hcompensates⟩, hopened, hclosed hopened⟩

end Fix
end CaseFill
