import CaseFill.Proofs.Header
import CaseFill.Proofs.Resolve.Verdict

/-! Which word of the header line an enumeration comes from. A bare cursor stands for
its whole line, so words in front of the keyword are swept too. Main statement: the
enumeration comes from a word of the line, and from one behind the keyword unless a
word that stands only in front of it leads to an enumeration. -/
namespace CaseFill.Resolve
variable {answers : Answers} {uri : Uri} {content : Text} {requested : Range}
  {settings : Settings} {r : ResolvedEnum} {line : Text}

theorem headerRange_of_cursor (hcursor : requested.start = requested.stop)
    (hline : Text.line? content requested.start.line = some line) :
    headerRange content requested =
      ⟨⟨requested.start.line, 0⟩, ⟨requested.start.line, Text.width line⟩⟩ := by
  rw [headerRange, if_pos hcursor]
  dsimp only
  rw [hline, Option.map_some, Option.getD_some]

/-- The positions of a whole line are its columns up to the one behind its end. -/
theorem positions_line {n : Nat} (hline : Text.line? content n = some line) :
    Sweep.positions content ⟨⟨n, 0⟩, ⟨n, Text.width line⟩⟩ =
      (List.range (Text.width line + 1)).map fun column => ⟨n, column⟩ := by
  have hcovered : ((Text.lines content).drop n).take 1 = [line] := by
    obtain ⟨hlt, hget⟩ := List.getElem?_eq_some_iff.mp hline
    rw [List.drop_eq_getElem_cons hlt, hget, List.take_succ_cons, List.take_zero]
  simp [Sweep.positions, Sweep.rows, hcovered, Sweep.rowOf, Row.positions, List.range_eq_range']

theorem mem_positions_line {n cap : Nat} {p : Position}
    (hline : Text.line? content n = some line)
    (h : p ∈ (Sweep.positions content ⟨⟨n, 0⟩, ⟨n, Text.width line⟩⟩).take cap) :
    p.line = n ∧ p.column ≤ Text.width line ∧ p.column < cap := by
  rw [positions_line hline, ← List.map_take, List.take_range, List.mem_map] at h
  obtain ⟨column, hcolumn, rfl⟩ := h
  rw [List.mem_range] at hcolumn
  exact ⟨rfl, by dsimp only; omega, by dsimp only; omega⟩

def keywordEnd? (line : Text) : Option Nat :=
  (Text.findWord switchKeyword line).map fun keyword =>
    Header.columnOf line (keyword + switchKeyword.length)

theorem exists_keywordEnd?_of_hasWord (h : Text.HasWord switchKeyword line) :
    ∃ stop, keywordEnd? line = some stop := by
  have hsome := (Header.isSome_inspect_iff line).mpr h
  rw [Header.inspect_eq_map, Option.isSome_map] at hsome
  rw [← Option.isSome_iff_exists, keywordEnd?, Option.isSome_map]
  exact hsome

/-- The word stands on line `n` at or behind the end of its keyword. -/
def StandsBehindKeyword (content : Text) (n : Nat) (word : Text) : Prop :=
  ∃ line stop column, Text.line? content n = some line ∧ keywordEnd? line = some stop ∧
    stop ≤ column ∧ column ≤ Text.width line ∧ Text.wordAt content ⟨n, column⟩ = some word

/-- The enumeration comes from a word of the cursor's line. It comes from one behind the
keyword if every word in front of it that leads to an enumeration stands behind it too. -/
theorem standsBehindKeyword_of_resolve {editor : Editor} (hanswers : editor.AnswersAs answers)
    (hcursor : requested.start = requested.stop)
    (hline : Text.line? content requested.start.line = some line)
    (hkeyword : Text.HasWord switchKeyword line)
    (h : (editor.converse (resolve uri content (headerRange content requested) settings).run).1 =
      .ok (some r)) :
    (∃ column ≤ Text.width line, column < settings.maxSweepPositions ∧
      Text.wordAt content ⟨requested.start.line, column⟩ = some r.identifier) ∧
    ((∀ stop, keywordEnd? line = some stop → ∀ column < stop,
        column < settings.maxSweepPositions → ∀ found : List Location,
        answers (.definition uri ⟨requested.start.line, column⟩) = .ok found →
        ∀ definition ∈ found, ∀ word,
        Text.wordAt content ⟨requested.start.line, column⟩ = some word →
        Leads answers ⟨definition, word⟩ →
        StandsBehindKeyword content requested.start.line word) →
      StandsBehindKeyword content requested.start.line r.identifier) := by
  rw [hanswers.converse_eq (always_resolve uri content _ settings),
    headerRange_of_cursor hcursor hline] at h
  obtain ⟨p, hp, hword, found, hfound, definition, hin, hleads⟩ := exists_position_of_resolve h
  obtain ⟨hpline, hwidth, hcap⟩ := mem_positions_line hline hp
  obtain ⟨n, column⟩ := p
  obtain rfl : n = requested.start.line := hpline
  refine ⟨⟨column, hwidth, hcap, hword⟩, fun hfront => ?_⟩
  obtain ⟨stop, hstop⟩ := exists_keywordEnd?_of_hasWord hkeyword
  -- the word is behind the keyword as it is, or it is one of those that stand there too
  rcases Nat.lt_or_ge column stop with hlt | hge
  · exact hfront stop hstop column hlt hcap found hfound definition hin _ hword ⟨r, hleads⟩
  · exact ⟨line, stop, column, hline, hstop, hge, hwidth, hword⟩

theorem standsBehindKeyword_of_resolve_palette :
    let content := "switch (c)".toList
    let requested : Range := ⟨⟨0, 3⟩, ⟨0, 3⟩⟩
    let run := (Editor.replying paletteReply).converse
      (resolve default content (headerRange content requested) .standard).run
    ∃ r, run.1 = .ok (some r) ∧ StandsBehindKeyword content 0 r.identifier := by
  intro content requested run
  have hrun : run.1.toOption.join.isSome = true := by decide +kernel
  obtain ⟨r, hr⟩ := Option.isSome_iff_exists.mp hrun
  have hok := eq_ok_some_of_join hr
  have hline : Text.line? content 0 = some content := by decide +kernel
  have hheader : (Header.inspect content).isSome = true := by decide +kernel
  have hword := (Header.isSome_inspect_iff content).mp hheader
  obtain ⟨-, hbehind⟩ := standsBehindKeyword_of_resolve (Editor.answersAs_replying paletteReply)
    rfl hline hword hok
  refine ⟨r, hok, hbehind ?_⟩
  intro stop hstop column hlt _ found hfound definition hin
  have hend : keywordEnd? content = some 6 := by decide +kernel
  cases hend.symm.trans hstop
  have hne : (⟨0, column⟩ : Position) ≠ ⟨0, 8⟩ := by
    intro heq
    cases heq
    omega
  have hnone : paletteReply (.definition default ⟨0, column⟩) = ([] : List Location) := if_neg hne
  cases hnone.symm.trans (Except.ok.inj hfound)
  cases hin

def variablesReply : (call : Call) → call.Answer
  | .definition _ p =>
    if p = ⟨0, 0⟩ then [⟨default, ⟨⟨8, 6⟩, ⟨8, 7⟩⟩⟩]
    else if p = ⟨0, 11⟩ then [⟨default, ⟨⟨9, 6⟩, ⟨9, 7⟩⟩⟩] else ([] : List Location)
  | .hover _ p => if p.line = 8 then ["Color b".toList] else (["Shape c".toList] : List Text)
  | .typeDefinition _ _ => ([] : List Location)
  | .documentSymbol _ =>
    ([⟨"Color".toList, .enum, ⟨⟨6, 0⟩, ⟨6, 20⟩⟩, []⟩,
      ⟨"Shape".toList, .enum, ⟨⟨7, 0⟩, ⟨7, 20⟩⟩, []⟩] : List Symbol)
  | .completion _ _ => ([] : List Text)
  | .edit _ _ => false

/-- The switch is over `c`, but the enumeration is that of the variable in front of the
keyword. -/
theorem not_standsBehindKeyword_of_resolve_variables :
    let content := "b; switch (c)".toList
    let requested : Range := ⟨⟨0, 5⟩, ⟨0, 5⟩⟩
    let editor := Editor.replying variablesReply
    editor.AnswersAs (answering variablesReply) ∧ Text.line? content 0 = some content ∧
      Text.HasWord switchKeyword content ∧
      ∃ r, (editor.converse
          (resolve default content (headerRange content requested) .standard).run).1 =
            .ok (some r) ∧
        r.identifier = "b".toList ∧ ¬StandsBehindKeyword content 0 r.identifier := by
  intro content requested editor
  have hline : Text.line? content 0 = some content := by decide +kernel
  have hheader : (Header.inspect content).isSome = true := by decide +kernel
  have hrun : (editor.converse (resolve default content (headerRange content requested)
      .standard).run).1.toOption.join.map ResolvedEnum.identifier = some "b".toList := by
    decide +kernel
  obtain ⟨r, hr, hidentifier⟩ := Option.map_eq_some_iff.mp hrun
  refine ⟨Editor.answersAs_replying variablesReply, hline,
    (Header.isSome_inspect_iff content).mp hheader, r, eq_ok_some_of_join hr, hidentifier, ?_⟩
  rintro ⟨line, stop, column, hline', hstop, hge, hwidth, hword⟩
  cases hline.symm.trans hline'
  have hend : keywordEnd? content = some 9 := by decide +kernel
  have hlength : Text.width content = 13 := by decide +kernel
  cases hend.symm.trans hstop
  rw [hlength] at hwidth
  have hother : ∀ column ≤ 13, 9 ≤ column →
      Text.wordAt content ⟨0, column⟩ ≠ some "b".toList := by
    decide +kernel
  exact hother column hwidth hge (hidentifier ▸ hword)

end CaseFill.Resolve
