import CaseFill.Proofs.Hover.TypeName

/-! The block of code of a hover, and what is read of it. Main statement: neither what
follows the block nor what follows the identifier in the signature has any influence on the
type name. -/
namespace CaseFill.Hover
open Text (findWord isEdge)

theorem afterFirstLine_of_cut {line : Text} (h : '\n' ∉ line) (rest : Text) :
    afterFirstLine (line ++ '\n' :: rest) = rest := by
  have hskip : ∀ c ∈ line, decide (c ≠ '\n') = true := by
    intro c hc
    exact decide_eq_true fun he => h (he ▸ hc)
  have hstop : ('\n' :: rest).dropWhile (fun c => decide (c ≠ '\n')) = '\n' :: rest :=
    List.dropWhile_cons_of_neg (by simp)
  rw [afterFirstLine, List.dropWhile_append_of_pos hskip, hstop]
  rfl

theorem afterFirstLine_append {t : Text} (h : '\n' ∈ t) (u : Text) :
    afterFirstLine (t ++ u) = afterFirstLine t ++ u := by
  obtain ⟨line, rest, rfl, hline⟩ := List.eq_append_cons_of_mem h
  rw [List.append_assoc, List.cons_append, afterFirstLine_of_cut hline,
    afterFirstLine_of_cut hline]

theorem suffix_afterFirstLine (t rest : Text) : rest <:+ afterFirstLine (t ++ '\n' :: rest) := by
  by_cases h : '\n' ∈ t
  · obtain ⟨line, more, rfl, hline⟩ := List.eq_append_cons_of_mem h
    rw [List.append_assoc, List.cons_append, afterFirstLine_of_cut hline]
    exact ⟨more ++ ['\n'], by simp⟩
  · exact ⟨[], (afterFirstLine_of_cut h rest).symm⟩

theorem exists_find?_of_infix {t : Text} (h : fence <:+: t) : ∃ i, Text.find? fence t = some i :=
  Option.isSome_iff_exists.mp (Text.occursIn_iff_infix.mpr h)

theorem beforeFence_append {t : Text} (h : fence <:+: t) (u : Text) :
    beforeFence (t ++ u) = beforeFence t := by
  obtain ⟨i, hi⟩ := exists_find?_of_infix h
  have hlength : i ≤ t.length := by
    obtain ⟨before, after, rfl, rfl⟩ := Text.exists_split_of_find? hi
    simp
  rw [beforeFence, beforeFence, hi, Text.find?_append hi]
  exact List.take_append_of_le_length hlength

/-- The text has a fence, the end of a line behind it, and another fence behind that. -/
def HasBlock (t : Text) : Prop :=
  ∃ lead language code rest, t = lead ++ fence ++ language ++ '\n' :: code ++ fence ++ rest

/-- Wherever a block stands, the first fence of the text opens one that is closed too. -/
theorem exists_place_of_hasBlock {t : Text} (h : HasBlock t) :
    ∃ i, Text.find? fence t = some i ∧ i + 3 ≤ t.length ∧ '\n' ∈ t.drop (i + 3) ∧
      fence <:+: afterFirstLine (t.drop (i + 3)) := by
  obtain ⟨lead, language, code, rest, ht⟩ := h
  have hsplit : t = lead ++ fence ++ (language ++ '\n' :: (code ++ fence ++ rest)) := by simp [ht]
  obtain ⟨i, hi⟩ := exists_find?_of_infix ⟨lead, _, hsplit.symm⟩
  have hplace : i + 3 ≤ (lead ++ fence).length := by
    rw [hsplit] at hi
    have hle := Text.le_of_find? hi
    rw [List.length_append]
    exact Nat.add_le_add_right hle 3
  have hbehind : t.drop (i + 3) =
      (lead ++ fence).drop (i + 3) ++ language ++ '\n' :: (code ++ fence ++ rest) := by
    rw [hsplit, List.drop_append_of_le_length hplace, ← List.append_assoc]
  refine ⟨i, hi, ?_, ?_, ?_⟩
  · rw [hsplit, List.length_append]
    omega
  · simp [hbehind]
  · have hclosing : fence <:+: code ++ fence ++ rest := ⟨code, rest, rfl⟩
    rw [hbehind]
    exact hclosing.trans (suffix_afterFirstLine _ _).isInfix

theorem declaration_append {t : Text} (h : HasBlock t) (u : Text) :
    declaration (t ++ u) = declaration t := by
  obtain ⟨i, hi, hlength, hfeed, hclosing⟩ := exists_place_of_hasBlock h
  rw [declaration, declaration, hi, Text.find?_append hi]
  dsimp only
  rw [List.drop_append_of_le_length hlength, afterFirstLine_append hfeed,
    beforeFence_append hclosing]

theorem declaration_code {language value : Text} (hlanguage : '\n' ∉ language)
    (hvalue : ¬fence <:+: value) (rest : Text) :
    declaration (renderMarked (.code language value) ++ rest) = value ++ ['\n'] := by
  have htext : renderMarked (.code language value) ++ rest =
      fence ++ (language ++ '\n' :: (value ++ '\n' :: (fence ++ rest))) := by
    simp [renderMarked]
  have hclosing : Text.find? fence (value ++ '\n' :: (fence ++ rest)) =
      some (value ++ ['\n']).length := by
    rw [Text.find?_append_cons (by decide) (by decide) hvalue, Text.find?_self_append]
    simp
  have htake : (value ++ '\n' :: (fence ++ rest)).take (value ++ ['\n']).length =
      value ++ ['\n'] := by
    have hsplit : value ++ '\n' :: (fence ++ rest) = value ++ ['\n'] ++ (fence ++ rest) := by simp
    rw [hsplit, List.take_left]
  rw [htext, declaration, Text.find?_self_append]
  change beforeFence (afterFirstLine (language ++ _)) = _
  rw [afterFirstLine_of_cut hlanguage, beforeFence, hclosing]
  exact htake

theorem codeLine_concat_feed (t : Text) : codeLine (t ++ ['\n']) = codeLine t := by
  have hlines : ∀ {before after : List Text}, Text.FeedAppended before after →
      (after.map Text.trim).filter isCode = (before.map Text.trim).filter isCode := by
    intro before after h
    cases h with
    | same => rfl
    | emptyLine =>
      rw [List.map_append, List.filter_append]
      exact List.append_nil _
    | joinedReturn others last =>
      have htrim : Text.trim (last ++ ['\r']) = Text.trim last := Text.trim_concat (by decide) last
      simp only [List.map_append, List.map_cons, List.map_nil, htrim]
  rw [codeLine, codeLine, hlines (Text.feedAppended_lines t)]

theorem signature_code {language value : Text} (hlanguage : '\n' ∉ language)
    (hvalue : ¬fence <:+: value) (rest : Text) :
    signature (renderMarked (.code language value) ++ rest) = codeLine value := by
  rw [signature, declaration_code hlanguage hvalue, codeLine_concat_feed]

theorem signature_plain {t : Text} (h : '\x60' ∉ t) : signature t = codeLine t := by
  have hnone : Text.find? fence t = none := by
    cases hfind : Text.find? fence t with
    | none => rfl
    | some i =>
      obtain ⟨before, after, rfl, -⟩ := Text.exists_split_of_find? hfind
      simp [fence] at h
  have hkept : t.filter (· ≠ '\x60') = t := by
    rw [List.filter_eq_self]
    intro c hc
    exact decide_eq_true fun he => h (he ▸ hc)
  rw [signature, declaration, hnone, hkept]

/-- A hover with a closed block yields the same type name whatever follows it. Two hovers
whose signatures agree up to the end of the identifier, where the search finds it in the
first one, yield the same type name if it ends there in the second one too. -/
theorem typeName?_of_same_front :
    (∀ hover rest identifier : Text, HasBlock hover →
      typeName? (hover ++ rest) identifier = typeName? hover identifier) ∧
    ∀ first second before identifier after after' : Text,
      signature first = before ++ identifier ++ after →
      signature second = before ++ identifier ++ after' →
      findWord identifier (signature first) = some before.length →
      isEdge after'.head? = true →
      typeName? first identifier = typeName? second identifier := by
  constructor
  · intro hover rest identifier hblock
    rw [typeName?_eq, typeName?_eq, signature, declaration_append hblock]
    rfl
  · intro first second before identifier after after' hfirst hsecond hplace hedge
    have hplace' : findWord identifier (signature second) = some before.length := by
      rw [hfirst] at hplace
      rw [hsecond]
      exact Text.findWord_of_front hedge hplace
    rw [typeName?_of_signature hfirst hplace, typeName?_of_signature hsecond hplace']

/-- A second block that names the variable again, and an initialiser that does. -/
theorem typeName?_of_same_front_repeated :
    let hover := "\x60\x60\x60cpp\nColor c\n\x60\x60\x60".toList
    let rest := "\n---\n\x60\x60\x60cpp\nint c\n\x60\x60\x60".toList
    let initialised := "\x60\x60\x60cpp\nColor c = next(c)\n\x60\x60\x60".toList
    HasBlock hover ∧ typeName? (hover ++ rest) ['c'] = typeName? hover ['c'] ∧
      signature hover = "Color ".toList ++ ['c'] ++ [] ∧
      signature initialised = "Color ".toList ++ ['c'] ++ " = next(c)".toList ∧
      typeName? hover ['c'] = typeName? initialised ['c'] := by
  intro hover rest initialised
  have hblock : HasBlock hover :=
    ⟨[], "cpp".toList, "Color c\n".toList, [], by decide +kernel⟩
  have hhover : signature hover = "Color ".toList ++ ['c'] ++ [] := by decide +kernel
  have hinitialised : signature initialised = "Color ".toList ++ ['c'] ++ " = next(c)".toList := by
    decide +kernel
  exact ⟨hblock, typeName?_of_same_front.1 _ _ _ hblock, hhover, hinitialised,
    typeName?_of_same_front.2 _ _ _ _ _ _ hhover hinitialised (by decide +kernel)
      (by decide +kernel)⟩

end CaseFill.Hover
