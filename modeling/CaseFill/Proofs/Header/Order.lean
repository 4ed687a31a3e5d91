import CaseFill.Proofs.Header.Completion

/-! The columns of a header. Each of them is the column of a place behind the keyword. Main
statement: the columns stand in the order in which the edits of the line need them, a missing
opening parenthesis first, then a missing closing one, then the first opening brace, and the
cases behind it. -/
namespace CaseFill.Header
variable {line : Text} {keyword : Nat}

def IsColumnBehind (front rest : Text) (column : Nat) : Prop :=
  ∃ passed left, rest = passed ++ left ∧ column = Text.width (front ++ passed)

structure WellOrdered (front rest : Text) (h : Header) : Prop where
  open_behind : ∀ c, h.openParenAt = some c → IsColumnBehind front rest c
  close_behind : ∀ c, h.closeParenAt = some c → IsColumnBehind front rest c
  end_behind : ∀ c, h.endCurlyAt = some c → IsColumnBehind front rest c
  insert_behind : IsColumnBehind front rest h.insertAt
  insert_le : h.insertAt ≤ Text.width (front ++ rest)
  insert_eq_end : ∀ c, h.endCurlyAt = some c → h.insertAt = c
  open_le_close : ∀ c d, h.openParenAt = some c → h.closeParenAt = some d → c ≤ d
  open_le_insert : ∀ c, h.openParenAt = some c → c ≤ h.insertAt
  /-- A closing parenthesis has a column of its own only in front of the first brace. -/
  close_le_brace : ∀ d, h.closeParenAt = some d →
    ∃ condition body, rest = condition ++ '\x7b' :: body ∧ '\x7b' ∉ condition ∧
      d ≤ Text.width (front ++ condition) ∧ Text.width (front ++ condition) < h.insertAt

theorem isColumnBehind_columnOf {i : Nat} (hi : keyword + switchKeyword.length ≤ i) :
    IsColumnBehind (line.take (keyword + switchKeyword.length)) (behind line keyword)
      (columnOf line i) := by
  refine ⟨Text.between line (keyword + switchKeyword.length) i, line.drop i, ?_, ?_⟩
  · have hdrop : line.drop i =
        (behind line keyword).drop (i - (keyword + switchKeyword.length)) := by
      rw [behind, List.drop_drop, Nat.add_sub_cancel' hi]
    rw [Text.between, List.drop_take, hdrop]
    exact (List.take_append_drop ..).symm
  · rw [Text.take_append_between line hi, columnOf]

theorem take_append_behind (line : Text) (keyword : Nat) :
    line.take (keyword + switchKeyword.length) ++ behind line keyword = line :=
  List.take_append_drop ..

theorem columnOf_lt {i j : Nat} (hij : i < j) (hi : i < line.length) :
    columnOf line i < columnOf line j := by
  have hnext : columnOf line (i + 1) = columnOf line i + Text.units (line.get ⟨i, hi⟩) := by
    rw [columnOf, List.take_succ_eq_append_getElem hi, Text.width_append]
    rfl
  have hpos := Text.units_pos (line.get ⟨i, hi⟩)
  have hle : columnOf line (i + 1) ≤ columnOf line j := columnOf_le hij
  omega

theorem cases_le_length : casesPlace line keyword ≤ line.length := by
  rw [casesPlace]
  cases he : endPlace line keyword with
  | none => exact Nat.le_refl _
  | some e =>
    obtain ⟨b, -, hclose⟩ := Option.bind_eq_some_iff.mp he
    exact (List.getElem?_eq_some_iff.mp (le_of_findFrom hclose).2).1.le

section
variable (hk : Text.findWord switchKeyword line = some keyword)
include hk

theorem brace_eq {b : Nat} (hb : findFrom '\x7b' line keyword = some b) :
    '\x7b' ∈ behind line keyword ∧ b = conditionEnd line keyword := by
  rw [findFrom_brace hk, Option.ite_none_right_eq_some] at hb
  exact ⟨hb.1, (Option.some.inj hb.2).symm⟩

theorem exists_condition {b : Nat} (hb : findFrom '\x7b' line keyword = some b) :
    ∃ condition body, behind line keyword = condition ++ '\x7b' :: body ∧ '\x7b' ∉ condition ∧
      line.take b = line.take (keyword + switchKeyword.length) ++ condition ∧
      line.drop (b + 1) = body := by
  obtain ⟨hin, rfl⟩ := brace_eq hk hb
  obtain ⟨condition, body, hsplit, hnot⟩ := List.eq_append_cons_of_mem hin
  have hplace : conditionEnd line keyword =
      keyword + switchKeyword.length + condition.length := by
    rw [conditionEnd, hsplit, Text.upTo_append_cons body hnot]
  refine ⟨condition, body, hsplit, hnot, ?_, ?_⟩
  · rw [hplace, List.take_add, ← behind, hsplit, List.take_left]
  · have hdrop : line.drop (conditionEnd line keyword) = '\x7b' :: body := by
      rw [hplace, ← List.drop_drop, ← behind, hsplit, List.drop_left]
    rw [← List.drop_drop, hdrop, List.drop_one, List.tail_cons]

theorem close_le_brace_lt_cases {j : Nat} (hj : closePlace line keyword = some j) :
    ∃ condition body, behind line keyword = condition ++ '\x7b' :: body ∧ '\x7b' ∉ condition ∧
      columnOf line j ≤ Text.width (line.take (keyword + switchKeyword.length) ++ condition) ∧
      Text.width (line.take (keyword + switchKeyword.length) ++ condition) <
        columnOf line (casesPlace line keyword) := by
  obtain ⟨b, hb, -⟩ := exists_brace_of_closePlace hj
  obtain ⟨condition, body, hsplit, hnot, htake, -⟩ := exists_condition hk hb
  -- the parenthesis goes behind the condition without its blanks, and so not past the brace
  have hjb : j ≤ b := (brace_eq hk hb).2 ▸ (closePlace_bounds hk hj).2
  have hlength : b < line.length := (List.getElem?_eq_some_iff.mp (le_of_findFrom hb).2).1
  refine ⟨condition, body, hsplit, hnot, ?_, ?_⟩
  · rw [← htake]
    exact columnOf_le hjb
  · rw [← htake]
    exact columnOf_lt (brace_lt_cases hb) hlength

theorem keyword_le_cases : keyword + switchKeyword.length ≤ casesPlace line keyword :=
  (Nat.le_add_right ..).trans (conditionEnd_le_cases hk)

theorem take_keyword_end :
    line.take (keyword + switchKeyword.length) = line.take keyword ++ switchKeyword := by
  rw [List.take_add, drop_keyword hk, List.take_left]

theorem wellOrdered_behind {h : Header} (hi : inspect line = some h) :
    WellOrdered (line.take (keyword + switchKeyword.length)) (behind line keyword) h := by
  rw [inspect_eq_map, hk, Option.map_some, Option.some.injEq] at hi
  subst hi
  constructor
  case open_behind =>
    intro c hc
    obtain ⟨i, hi, rfl⟩ := Option.map_eq_some_iff.mp hc
    exact isColumnBehind_columnOf (openPlace_bounds hi).1
  case close_behind =>
    intro c hc
    obtain ⟨j, hj, rfl⟩ := Option.map_eq_some_iff.mp hc
    exact isColumnBehind_columnOf (closePlace_bounds hk hj).1
  case end_behind =>
    intro c hc
    obtain ⟨e, he, rfl⟩ := Option.map_eq_some_iff.mp hc
    have hcases := keyword_le_cases hk
    rw [casesPlace, he, Option.getD_some] at hcases
    exact isColumnBehind_columnOf hcases
  case insert_behind => exact isColumnBehind_columnOf (keyword_le_cases hk)
  case insert_le =>
    have hwidth : columnOf line line.length = Text.width line := by
      rw [columnOf, List.take_length]
    rw [take_append_behind, ← hwidth]
    exact columnOf_le cases_le_length
  case insert_eq_end =>
    intro c hc
    obtain ⟨e, he, rfl⟩ := Option.map_eq_some_iff.mp hc
    simp only [casesPlace, he, Option.getD_some]
  case open_le_close =>
    intro c d hc hd
    obtain ⟨i, hi, rfl⟩ := Option.map_eq_some_iff.mp hc
    obtain ⟨j, hj, rfl⟩ := Option.map_eq_some_iff.mp hd
    exact columnOf_le ((ordered_of_findWord hk).open_le_close i j hi hj)
  case open_le_insert =>
    intro c hc
    obtain ⟨i, hi, rfl⟩ := Option.map_eq_some_iff.mp hc
    exact columnOf_le ((ordered_of_findWord hk).open_le_cases i hi)
  case close_le_brace =>
    intro d hd
    obtain ⟨j, hj, rfl⟩ := Option.map_eq_some_iff.mp hd
    exact close_le_brace_lt_cases hk hj

end

/-- The columns of every header are in order behind its keyword, which is the first one that
stands on the line as a whole word. -/
theorem wellOrdered_of_inspect {h : Header} (hi : inspect line = some h) :
    ∃ before rest, line = before ++ switchKeyword ++ rest ∧
      Text.IsWordAt switchKeyword none line before.length ∧
      (∀ i, Text.IsWordAt switchKeyword none line i → before.length ≤ i) ∧
      WellOrdered (before ++ switchKeyword) rest h := by
  obtain ⟨keyword, hk⟩ := exists_findWord_of_inspect hi
  have hword := Text.isWordAt_of_findWord hk
  have hordered := wellOrdered_behind hk hi
  have hline := take_append_behind line keyword
  have hlength : (line.take keyword).length = keyword := by
    have hend := hword.end_le
    rw [List.length_take]
    omega
  rw [take_keyword_end hk] at hordered hline
  refine ⟨line.take keyword, behind line keyword, hline.symm, ?_, ?_, hordered⟩
  · rwa [hlength]
  · intro i hi
    rw [hlength]
    exact Text.le_of_findWord isIdentChar_of_mem_keyword hk hi

/-- Behind a character of two units both parentheses are missing, and the brace that closes
the body is on the line. The longer word in front is passed over. -/
theorem wellOrdered_of_inspect_astral :
    let line := "/* 🎨 */ switches; switch  c \x7b\x7d".toList
    let h : Header := ⟨some 27, true, some 28, false, some 30, 30⟩
    inspect line = some h ∧ ∃ before rest, line = before ++ switchKeyword ++ rest ∧
      WellOrdered (before ++ switchKeyword) rest h ∧
      ∃ condition body, rest = condition ++ '\x7b' :: body ∧
        28 ≤ Text.width (before ++ switchKeyword ++ condition) ∧
        Text.width (before ++ switchKeyword ++ condition) < 30 := by
  intro line h
  have hi : inspect line = some h := by decide +kernel
  obtain ⟨before, rest, hline, -, -, hordered⟩ := wellOrdered_of_inspect hi
  obtain ⟨condition, body, hrest, -, hle, hlt⟩ := hordered.close_le_brace 28 rfl
  exact ⟨hi, before, rest, hline, hordered, condition, body, hrest, hle, hlt⟩

end CaseFill.Header
