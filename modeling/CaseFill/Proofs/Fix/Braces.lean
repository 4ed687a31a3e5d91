import CaseFill.Proofs.Fix.Commit

/-! Braces of a document that a fix was committed to. Main statement: a fix leaves a
balanced document balanced, unless the body of the switch begins on the header line
and neither the header line nor the first line of text below it closes the body; then
there is one closing brace too many. -/
namespace CaseFill

/-- The body of the switch begins on its header line and is not closed there. -/
def Header.OpensBody (line : Text) : Prop :=
  ∃ keyword before body, Text.findWord switchKeyword line = some keyword ∧
    line.drop keyword = before ++ '\x7b' :: body ∧ '\x7b' ∉ before ∧ '\x7d' ∉ body

/-- The first line of text from line `n` on has a closing brace. -/
def Closing.IsClosedBelow (content : Text) (n : Nat) : Prop :=
  ∃ blanks line rest, (Text.lines content).drop n = blanks ++ line :: rest ∧
    (∀ b ∈ blanks, ∀ c ∈ b, Text.isBlank c = true) ∧ '\x7d' ∈ line

theorem Header.drop_behind {line before body : Text} {c : Char} {keyword : Nat}
    (h : line.drop keyword = before ++ c :: body) :
    line.drop (keyword + before.length + 1) = body := by
  rw [Nat.add_assoc, ← List.drop_drop, h, ← List.drop_drop, List.drop_left, List.drop_one,
    List.tail_cons]

theorem Header.opensBody_iff {line : Text} {h : Header} (hi : inspect line = some h) :
    OpensBody line ↔ h.needsOpenBrace = false ∧ h.endCurlyAt = none := by
  rw [inspect_eq_map] at hi
  obtain ⟨keyword, hk, rfl⟩ := Option.map_eq_some_iff.mp hi
  simp only [Option.isNone_eq_false_iff, Option.isSome_iff_exists, Option.map_eq_none_iff]
  constructor
  · rintro ⟨keyword', before, body, hk', hsplit, hbefore, hbody⟩
    cases hk.symm.trans hk'
    have hbrace : findFrom '\x7b' line keyword = some (keyword + before.length) := by
      rw [findFrom, Text.find?_singleton_eq_some_iff.mpr ⟨before, body, hsplit, hbefore, rfl⟩,
        Option.map_some]
    refine ⟨⟨_, hbrace⟩, ?_⟩
    rw [endPlace, hbrace, Option.bind_some, findFrom, drop_behind hsplit,
      Text.find?_singleton_eq_none_iff.mpr hbody, Option.map_none]
  · rintro ⟨⟨b, hb⟩, hend⟩
    obtain ⟨i, hi, rfl⟩ := Option.map_eq_some_iff.mp hb
    obtain ⟨before, body, hsplit, hbefore, rfl⟩ := Text.find?_singleton_eq_some_iff.mp hi
    rw [endPlace, hb, Option.bind_some, findFrom, drop_behind hsplit, Option.map_eq_none_iff,
      Text.find?_singleton_eq_none_iff] at hend
    exact ⟨keyword, before, body, hk, hsplit, hbefore, hend⟩

theorem Closing.closedBelow_iff {content : Text} {n : Nat} :
    closedBelow content n = true ↔ IsClosedBelow content n := by
  rw [closedBelow, IsClosedBelow]
  generalize (Text.lines content).drop n = lines
  induction lines with
  | nil => simp [closedIn]
  | cons line rest ih =>
    simp only [closedIn, List.contains_iff_mem, List.isEmpty_iff, Text.trim_eq_nil_iff]
    by_cases hbrace : '\x7d' ∈ line
    · rw [if_pos hbrace]
      exact iff_of_true rfl ⟨[], line, rest, rfl, by simp, hbrace⟩
    · rw [if_neg hbrace]
      constructor
      · intro h
        split at h
        · next hblank =>
          obtain ⟨blanks, closing, others, rfl, hblanks, hin⟩ := ih.mp h
          exact ⟨line :: blanks, closing, others, rfl,
            List.forall_mem_cons.mpr ⟨hblank, hblanks⟩, hin⟩
        · cases h
      · rintro ⟨blanks, closing, others, hsplit, hblanks, hin⟩
        cases blanks with
        | nil =>
          obtain ⟨rfl, -⟩ := List.cons.inj hsplit
          exact absurd hin hbrace
        | cons blank blanks =>
          obtain ⟨rfl, rfl⟩ := List.cons.inj hsplit
          obtain ⟨hblank, hblanks⟩ := List.forall_mem_cons.mp hblanks
          rw [if_pos hblank]
          exact ih.mpr ⟨blanks, closing, others, rfl, hblanks, hin⟩

theorem Header.endCurlyAt_of_needsOpenBrace {line : Text} {h : Header} (hi : inspect line = some h)
    (hneeds : h.needsOpenBrace = true) : h.endCurlyAt = none := by
  rw [inspect_eq_map] at hi
  obtain ⟨keyword, hk, rfl⟩ := Option.map_eq_some_iff.mp hi
  rw [Option.isNone_iff_eq_none] at hneeds
  simp [endPlace, hneeds]

theorem Closing.ofHeader_eq_brace_iff {line : Text} {h : Header}
    (hi : Header.inspect line = some h) (content : Text) (n : Nat) :
    ofHeader h content n = .brace ↔
      h.needsOpenBrace = true ∨ Header.OpensBody line ∧ ¬IsClosedBelow content (n + 1) := by
  rw [Header.opensBody_iff hi, ← closedBelow_iff, ofHeader]
  cases hneeds : h.needsOpenBrace with
  | true =>
    have hend := Header.endCurlyAt_of_needsOpenBrace hi hneeds
    simp [hend]
  | false =>
    cases hend : h.endCurlyAt with
    | some column => simp
    | none => simp

theorem Header.count_punctuation (h : Header) :
    h.punctuation.count '\x7b' = (if h.needsOpenBrace then 1 else 0) ∧
      h.punctuation.count '\x7d' = 0 := by
  unfold punctuation
  cases h.needsOpenBrace with
  | true => split <;> decide
  | false => split <;> decide

theorem Closing.count_text (c : Closing) :
    c.text.count '\x7b' = 0 ∧ c.text.count '\x7d' = (if c = .brace then 1 else 0) := by
  cases c <;> decide

theorem Proposal.count_paren {c d : Char} (h : c ≠ d) (column : Option Nat) :
    (paren c column).count d = 0 := by
  cases column with
  | none => rfl
  | some n => simp [paren, h]

namespace Cases

theorem mem_caseOf {b : Char} {name m : Text} (h : b ∈ caseOf name m) :
    b ∈ caseOf [] [] ∨ b ∈ name ∨ b ∈ m := by
  unfold caseOf at h ⊢
  generalize "\ncase ".toList = lead at h ⊢
  generalize "::".toList = colons at h ⊢
  generalize ":\nbreak;".toList = stop at h ⊢
  simp only [List.mem_append, List.append_nil] at h ⊢
  rcases h with (((h | h) | h) | h) | h
  · exact .inl (.inl (.inl h))
  · exact .inr (.inl h)
  · exact .inl (.inl (.inr h))
  · exact .inr (.inr h)
  · exact .inl (.inr h)

theorem count_flatMap_caseOf {b : Char} {name : Text} {members : List Text}
    (hfixed : b ∉ caseOf [] []) (hname : b ∉ name) (hmembers : ∀ m ∈ members, b ∉ m) :
    (members.flatMap (caseOf name)).count b = 0 := by
  rw [List.count_eq_zero, List.mem_flatMap]
  rintro ⟨m, hm, hin⟩
  rcases mem_caseOf hin with hin | hin | hin
  · exact hfixed hin
  · exact hname hin
  · exact hmembers m hm hin

end Cases

namespace Proposal.Site
variable {p : Proposal} {content : Text} (site : p.Site content)

theorem count_apply_finalEdits (c : Char) {members : List Text} (closing : Closing)
    (hne : members ≠ []) :
    (Buffer.apply site.edited (p.finalEdits members closing)).count c =
      content.count c + (paren '(' p.header.openParenAt).count c +
        (paren ')' p.header.closeParenAt).count c + p.header.punctuation.count c +
        (members.flatMap (Cases.caseOf p.enumName)).count c + closing.text.count c := by
  have hcases := congrArg (List.count c) (Cases.template_append_block p.enumName closing hne)
  have hcontent := congrArg (List.count c) site.content_eq
  have hline := congrArg (List.count c) site.parts.line_eq
  rw [site.apply_finalEdits]
  simp only [Proposal.text, header, List.count_append] at hcases hcontent hline ⊢
  omega

theorem count_brace_apply_finalEdits {c : Char} (hc : c = '\x7b' ∨ c = '\x7d')
    {members : List Text} (closing : Closing) (hne : members ≠ [])
    (hname : Text.isIdentifier p.enumName = true) (hmembers : ∀ m ∈ members, c ∉ m) :
    (Buffer.apply site.edited (p.finalEdits members closing)).count c =
      content.count c + p.header.punctuation.count c + closing.text.count c := by
  have hopen : '(' ≠ c := by rcases hc with rfl | rfl <;> decide
  have hclose : ')' ≠ c := by rcases hc with rfl | rfl <;> decide
  have hfixed : c ∉ Cases.caseOf [] [] := by rcases hc with rfl | rfl <;> decide
  have henum : c ∉ p.enumName := by
    intro hin
    have hident := Text.isIdentChar_of_mem hname hin
    rcases hc with rfl | rfl
    · exact absurd hident (by decide)
    · exact absurd hident (by decide)
  rw [site.count_apply_finalEdits c closing hne, count_paren hopen, count_paren hclose,
    Cases.count_flatMap_caseOf hfixed henum hmembers]
  simp only [Nat.add_zero]

end Proposal.Site

namespace Fix
variable {uri : Uri} {content : Text} {range : Range} {settings : Settings}

theorem count_braces_documentAfter (editor : Editor) {name : Text} {members : List Text}
    (h : (editor.converse (addCases uri content range settings).run).1 =
      .ok (.committed name members))
    (hmembers : ∀ m ∈ members, '\x7b' ∉ m ∧ '\x7d' ∉ m) :
    ∃ header, headerOf content range = some header ∧
      let doc := documentAfter uri content
        (editAttempts (editor.converse (addCases uri content range settings).run).2)
      let closing := Closing.ofHeader header content range.start.line
      doc.count '\x7b' = content.count '\x7b' + (if header.needsOpenBrace then 1 else 0) ∧
      doc.count '\x7d' = content.count '\x7d' + (if closing = .brace then 1 else 0) := by
  obtain ⟨header, hheader, hname, hne, site, hdoc⟩ := exists_site_of_committed editor h
  have hopen := site.count_brace_apply_finalEdits (c := '\x7b') (.inl rfl)
    (Closing.ofHeader header content range.start.line) hne hname fun m hm => (hmembers m hm).1
  have hclose := site.count_brace_apply_finalEdits (c := '\x7d') (.inr rfl)
    (Closing.ofHeader header content range.start.line) hne hname fun m hm => (hmembers m hm).2
  refine ⟨header, hheader, ?_, ?_⟩
  · rw [hdoc, hopen, header.count_punctuation.1, (Closing.count_text _).1, Nat.add_zero]
  · rw [hdoc, hclose, header.count_punctuation.2, (Closing.count_text _).2, Nat.add_zero]

/-- A committed fix leaves a balanced document balanced, but for a body that begins on
the header line and is closed neither there nor by the first line of text below it:
that one is closed a second time. -/
theorem count_braces_of_committed (editor : Editor) {name : Text} {members : List Text}
    (h : (editor.converse (addCases uri content range settings).run).1 =
      .ok (.committed name members))
    (hmembers : ∀ m ∈ members, '\x7b' ∉ m ∧ '\x7d' ∉ m)
    (hbalanced : content.count '\x7b' = content.count '\x7d') :
    let doc := documentAfter uri content
      (editAttempts (editor.converse (addCases uri content range settings).run).2)
    ∃ line, Text.line? content range.start.line = some line ∧
      (Header.OpensBody line ∧ ¬Closing.IsClosedBelow content (range.start.line + 1) →
        doc.count '\x7d' = doc.count '\x7b' + 1) ∧
      (¬(Header.OpensBody line ∧ ¬Closing.IsClosedBelow content (range.start.line + 1)) →
        doc.count '\x7b' = doc.count '\x7d') := by
  intro doc
  obtain ⟨header, hheader, hopen, hclose⟩ := count_braces_documentAfter editor h hmembers
  obtain ⟨line, hline, hinspect⟩ := Option.bind_eq_some_iff.mp hheader
  have hbrace := Closing.ofHeader_eq_brace_iff hinspect content range.start.line
  refine ⟨line, hline, fun hunclosed => ?_, fun hclosed => ?_⟩
  · have hneeds : header.needsOpenBrace = false := ((Header.opensBody_iff hinspect).mp hunclosed.1).1
    rw [hopen, hclose, if_pos (hbrace.mpr (.inr hunclosed)), hneeds, hbalanced]
    rfl
  · have hboth : Closing.ofHeader header content range.start.line = .brace ↔
        header.needsOpenBrace = true := by
      rw [hbrace, or_iff_left hclosed]
    rw [hopen, hclose, hbalanced]
    simp only [hboth]

def colorEditor : Editor :=
  .knowing ⟨0, 8⟩ ⟨default, ⟨⟨9, 6⟩, ⟨9, 7⟩⟩⟩ "Color c".toList
    [⟨"Color".toList, .enum, ⟨⟨8, 0⟩, ⟨8, 20⟩⟩, []⟩] ["Red".toList]

theorem count_braces_of_committed_blank_line :
    let content := "switch (c) \x7b\n \n\x7d".toList
    let run := colorEditor.converse (addCases default content ⟨⟨0, 0⟩, ⟨0, 12⟩⟩ .standard).run
    let doc := documentAfter default content (editAttempts run.2)
    run.1 = .ok (.committed "Color".toList ["Red".toList]) ∧
      content.count '\x7b' = content.count '\x7d' ∧ doc.count '\x7b' = doc.count '\x7d' := by
  intro content run doc
  have hrun : run.1 = .ok (.committed "Color".toList ["Red".toList]) := by decide +kernel
  have hbalanced : content.count '\x7b' = content.count '\x7d' := by decide +kernel
  have hclosed : Closing.IsClosedBelow content 1 := Closing.closedBelow_iff.mp (by decide +kernel)
  obtain ⟨line, -, -, hdoc⟩ :=
    count_braces_of_committed colorEditor hrun (by decide +kernel) hbalanced
  exact ⟨hrun, hbalanced, hdoc fun hunclosed => hunclosed.2 hclosed⟩

/-- A statement stands in the body, and the braces are balanced no more. -/
theorem count_braces_ne_of_statement_in_body :
    let content := "switch (c) \x7b\ndraw();\n\x7d".toList
    let run := colorEditor.converse (addCases default content ⟨⟨0, 0⟩, ⟨0, 12⟩⟩ .standard).run
    let doc := documentAfter default content (editAttempts run.2)
    run.1 = .ok (.committed "Color".toList ["Red".toList]) ∧
      (∀ m ∈ ["Red".toList], '\x7b' ∉ m ∧ '\x7d' ∉ m) ∧
      content.count '\x7b' = content.count '\x7d' ∧ doc.count '\x7b' ≠ doc.count '\x7d' := by
  intro content run doc
  have hrun : run.1 = .ok (.committed "Color".toList ["Red".toList]) := by decide +kernel
  refine ⟨hrun, by decide +kernel, by decide +kernel, ?_⟩
  decide +kernel

end Fix
end CaseFill
