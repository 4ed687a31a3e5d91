import CaseFill.Proofs.Header.Completion
import CaseFill.Proofs.Proposal.Site
import CaseFill.Proofs.Resolve

/-! The header line after the provisional edits. Main statement: between the keyword and the
first opening brace behind it a parenthesis is missing afterwards exactly if the line has it
behind the brace only. -/
namespace CaseFill

namespace Proposal
variable {p : Proposal} {content line : Text} {keyword : Nat}

theorem lineOf_apply_provisionalEdits (hline : Text.line? content p.line = some line)
    (hheader : Header.inspect line = some p.header) (hname : '\n' ∉ p.enumName)
    (parts : Header.Parts line p.header) :
    Buffer.lineOf (Buffer.apply content p.provisionalEdits) p.line =
      parts.head ++ paren '(' p.header.openParenAt ++ parts.condition ++
        paren ')' p.header.closeParenAt ++ parts.brace ++ p.header.punctuation := by
  obtain ⟨before, after, hcontent, hbefore, hbreak⟩ := Text.exists_cut_of_line? hline
  let site : Site p content :=
    ⟨before, line, after, parts, hline, hheader, hcontent, hbefore, hbreak, hname⟩
  have hedited : site.edited = before ++ ((site.header ++ p.header.punctuation) ++
      '\n' :: (Cases.label p.enumName ++ (parts.tail ++ after))) := by
    simp [Site.edited, text, Cases.template, site]
  have hheaderBreak : '\n' ∉ site.header ++ p.header.punctuation := by
    simp [site.header_noBreak, newline_notMem_punctuation]
  rw [site.apply_provisionalEdits, hedited, Buffer.lineOf_of_isLines _ hbefore hheaderBreak]
  rfl

theorem paren_openParenAt (hheader : Header.inspect line = some p.header)
    (hk : Text.findWord switchKeyword line = some keyword) :
    paren '(' p.header.openParenAt = Text.lacking '(' (Header.behind line keyword) := by
  rw [Header.inspect_eq_map, hk, Option.map_some, Option.some.injEq] at hheader
  rw [← hheader, paren, Option.isSome_map, Header.openPlace, Text.lacking, Header.behind]
  simp only [List.contains_iff_mem]
  split <;> rfl

/-- A missing closing parenthesis goes in front of the brace, or with it to the end. -/
theorem paren_closeParenAt (hheader : Header.inspect line = some p.header)
    (hk : Text.findWord switchKeyword line = some keyword) :
    ('\x7b' ∈ Header.behind line keyword →
      paren ')' p.header.closeParenAt = Text.lacking ')' (Header.behind line keyword) ∧
        p.header.punctuation = []) ∧
    ('\x7b' ∉ Header.behind line keyword →
      paren ')' p.header.closeParenAt = [] ∧
        p.header.punctuation =
          Text.lacking ')' (Header.behind line keyword) ++ [' ', '\x7b']) := by
  rw [Header.inspect_eq_map, hk, Option.map_some, Option.some.injEq] at hheader
  have hclose := Header.mem_drop_keyword_iff hk (by decide : ')' ∉ switchKeyword)
  have hbrace := Header.findFrom_brace hk
  rw [← hheader]
  constructor
  · intro hin
    rw [if_pos hin] at hbrace
    by_cases hc : ')' ∈ Header.behind line keyword <;>
      simp [Header.punctuation, Header.closePlace, paren, hbrace, hclose, hc, Text.lacking]
  · intro hnot
    rw [if_neg hnot] at hbrace
    by_cases hc : ')' ∈ Header.behind line keyword <;>
      simp [Header.punctuation, Header.closePlace, paren, hbrace, hclose, hc, Text.lacking]

theorem exists_completion (hline : Text.line? content p.line = some line)
    (hheader : Header.inspect line = some p.header) (hname : '\n' ∉ p.enumName)
    (hk : Text.findWord switchKeyword line = some keyword) :
    ∃ written, Buffer.lineOf (Buffer.apply content p.provisionalEdits) p.line =
        line.take (keyword + switchKeyword.length) ++ written ∧
      Nonempty (Header.Completion (Header.behind line keyword) written) := by
  obtain ⟨parts, hhead, hcondition, hbrace⟩ := Header.exists_parts_behind hheader hk
  obtain ⟨hkl, hlr, hre⟩ := Header.places_ordered hk
  have hwritten := lineOf_apply_provisionalEdits hline hheader hname parts
  rw [hhead, hcondition, hbrace, paren_openParenAt hheader hk,
    ← Text.take_append_between line hkl,
    ← Text.between_append_between line hre (Header.conditionEnd_le_cases hk)] at hwritten
  have hupTo := Header.upTo_behind hk
  by_cases hb : '\x7b' ∈ Header.behind line keyword
  · obtain ⟨hclose, hpunctuation⟩ := (paren_closeParenAt hheader hk).1 hb
    have hfound := Header.findFrom_brace hk
    rw [if_pos hb] at hfound
    rw [hclose, hpunctuation, Text.between_eq_cons (Header.brace_lt_cases hfound)
      (Header.le_of_findFrom hfound).2] at hwritten
    refine ⟨_, by simpa only [List.append_assoc, List.append_nil] using hwritten, ⟨{
      blanks := Text.between line (keyword + switchKeyword.length) (Header.leftPlace line keyword)
      condition :=
        Text.between line (Header.leftPlace line keyword) (Header.rightPlace line keyword)
      spaces :=
        Text.between line (Header.rightPlace line keyword) (Header.conditionEnd line keyword)
      gap := Text.between line (Header.rightPlace line keyword) (Header.conditionEnd line keyword)
      body := Text.between line (Header.conditionEnd line keyword + 1)
        (Header.casesPlace line keyword)
      upTo_eq := hupTo
      written_eq := by simp only [List.append_assoc]
      blanks_eq := Header.between_leftPlace
      gap_eq := .inl rfl
      body_subset := Header.between_subset_behind line (by omega) _ }⟩⟩
  · obtain ⟨hclose, hpunctuation⟩ := (paren_closeParenAt hheader hk).2 hb
    obtain ⟨hright, hcases⟩ := Header.rightPlace_of_notMem hk hb
    rw [hclose, hpunctuation, hcases, hright, Text.between_self] at hwritten
    rw [hright, Text.between_self] at hupTo
    refine ⟨_, by simpa only [List.append_assoc, List.append_nil] using hwritten, ⟨{
      blanks := Text.between line (keyword + switchKeyword.length) (Header.leftPlace line keyword)
      condition :=
        Text.between line (Header.leftPlace line keyword) (Header.conditionEnd line keyword)
      spaces := []
      gap := [' ']
      body := []
      upTo_eq := hupTo
      written_eq := by simp only [List.append_assoc, List.nil_append, List.cons_append]
      blanks_eq := Header.between_leftPlace
      gap_eq := .inr ⟨rfl, rfl⟩
      body_subset := List.nil_subset _ }⟩⟩

/-- Once the provisional edits are made, a parenthesis stands between the keyword and the
first opening brace behind it if it stood there before or the line had none behind the
keyword at all. One that the line has behind the brace only is taken for it. -/
theorem mem_condition_iff (hline : Text.line? content p.line = some line)
    (hheader : Header.inspect line = some p.header)
    (hname : Text.isIdentifier p.enumName = true) :
    ∃ keyword written, Text.findWord switchKeyword line = some keyword ∧
      Buffer.lineOf (Buffer.apply content p.provisionalEdits) p.line =
        line.take (keyword + switchKeyword.length) ++ written ∧ '\x7b' ∈ written ∧
      let rest := line.drop (keyword + switchKeyword.length)
      ∀ c, c = '(' ∨ c = ')' →
        (c ∈ Text.upTo '\x7b' written ↔ c ∈ Text.upTo '\x7b' rest ∨ c ∉ rest) := by
  obtain ⟨keyword, hk⟩ := Header.exists_findWord_of_inspect hheader
  obtain ⟨written, hwritten, ⟨completion⟩⟩ :=
    exists_completion hline hheader (Text.newline_notMem_of_isIdentifier hname) hk
  exact ⟨keyword, written, hk, hwritten, completion.brace_mem,
    fun c hc => completion.mem_upTo_written_iff hc⟩

/-- The body of this switch closes on its header line. Both parentheses are missing, and
both are put in. -/
theorem mem_condition_iff_empty_body :
    let content := "😀 switch c \x7b\x7d".toList
    let p : Proposal :=
      ⟨default, 0, "Color".toList, ⟨some 10, true, some 11, false, some 13, 13⟩⟩
    Text.line? content 0 = some content ∧ Header.inspect content = some p.header ∧
      Text.isIdentifier p.enumName = true ∧
      ∃ written, Buffer.lineOf (Buffer.apply content p.provisionalEdits) 0 =
        "😀 switch".toList ++ written ∧ '(' ∈ Text.upTo '\x7b' written ∧
        ')' ∈ Text.upTo '\x7b' written := by
  intro content p
  have hline : Text.line? content p.line = some content := by decide +kernel
  have hheader : Header.inspect content = some p.header := by decide +kernel
  have hname : Text.isIdentifier p.enumName = true := by decide +kernel
  obtain ⟨keyword, written, hk, hwritten, -, hmem⟩ := mem_condition_iff hline hheader hname
  have hplace : Text.findWord switchKeyword content = some 2 := by decide +kernel
  cases hplace.symm.trans hk
  refine ⟨hline, hheader, hname, written, hwritten, (hmem '(' (.inl rfl)).mpr (.inr ?_),
    (hmem ')' (.inr rfl)).mpr (.inr ?_)⟩
  · decide +kernel
  · decide +kernel

/-- A call in the body of this switch has both parentheses, and so its condition gets none. -/
theorem notMem_condition_of_call_in_body :
    let content := "switch c \x7b draw(); \x7d".toList
    let p : Proposal := ⟨default, 0, "Color".toList, ⟨none, false, none, false, some 19, 19⟩⟩
    Text.line? content 0 = some content ∧ Header.inspect content = some p.header ∧
      Text.isIdentifier p.enumName = true ∧
      Buffer.lineOf (Buffer.apply content p.provisionalEdits) 0 =
        "switch".toList ++ " c \x7b draw(); ".toList ∧
      '(' ∉ Text.upTo '\x7b' " c \x7b draw(); ".toList ∧
      ')' ∉ Text.upTo '\x7b' " c \x7b draw(); ".toList := by
  decide +kernel

end Proposal
end CaseFill
