import CaseFill.Proofs.Header.Order
import CaseFill.Proofs.Text.Boundary

/-! The body of a switch that ends on its header line. Main statement: the cases go in front
of the first closing brace behind the first opening one. That brace closes the body exactly
if no block is opened in the body before it; else it closes the block that was opened last,
and the cases go into that block. -/
namespace CaseFill

namespace Text
variable {t : Text}

/-- The braces of a text close one another: there are as many of one kind as of the other,
and up to no place are there more closing ones. -/
structure Balanced (t : Text) : Prop where
  count_eq : t.count '\x7b' = t.count '\x7d'
  count_le : ∀ s, s <+: t → s.count '\x7d' ≤ s.count '\x7b'

theorem balanced_iff_of_notMem (h : '\x7d' ∉ t) : Balanced t ↔ '\x7b' ∉ t := by
  constructor
  · intro hbalanced
    rw [← List.count_eq_zero, hbalanced.count_eq, List.count_eq_zero]
    exact h
  · intro hopen
    refine ⟨?_, ?_⟩
    · rw [List.count_eq_zero.mpr hopen, List.count_eq_zero.mpr h]
    · intro s hs
      have hzero : s.count '\x7d' = 0 := List.count_eq_zero.mpr fun hin => h (hs.subset hin)
      rw [hzero]
      exact Nat.zero_le _

theorem exists_last_of_mem {c : Char} (h : c ∈ t) :
    ∃ before after, t = before ++ c :: after ∧ c ∉ after := by
  obtain ⟨after, before, hsplit, hnot⟩ := List.eq_append_cons_of_mem (List.mem_reverse.mpr h)
  refine ⟨before.reverse, after.reverse, ?_, by simpa using hnot⟩
  have hreverse := congrArg List.reverse hsplit
  simpa using hreverse

end Text

namespace Header
variable {line : Text} {h : Header} {column : Nat}

/-- A closing brace stands in this column, and `inside` stands between the first opening
brace behind the keyword and that closing brace. -/
def Encloses (line inside : Text) (column : Nat) : Prop :=
  ∃ keyword condition rest, Text.findWord switchKeyword line = some keyword ∧
    behind line keyword = condition ++ '\x7b' :: (inside ++ '\x7d' :: rest) ∧
    '\x7b' ∉ condition ∧
    column = Text.width
      (line.take (keyword + switchKeyword.length) ++ condition ++ '\x7b' :: inside)

theorem Encloses.unique {inside other : Text} (h : Encloses line inside column)
    (h' : Encloses line other column) : other = inside := by
  obtain ⟨keyword, condition, rest, hk, hsplit, hnot, hcolumn⟩ := h
  obtain ⟨keyword', condition', rest', hk', hsplit', hnot', hcolumn'⟩ := h'
  obtain rfl : keyword' = keyword := Option.some.inj (hk'.symm.trans hk)
  -- both cuts are at the first opening brace, so what is left are two texts of one width
  have hcondition : condition' = condition := by
    rw [← Text.upTo_append_cons (other ++ '\x7d' :: rest') hnot', ← hsplit', hsplit,
      Text.upTo_append_cons _ hnot]
  subst hcondition
  rw [hsplit] at hsplit'
  have hbody := (List.cons.inj (List.append_cancel_left hsplit')).2
  refine Text.eq_of_prefix_of_width (t := inside ++ '\x7d' :: rest) ⟨_, hbody.symm⟩
    (List.prefix_append ..) ?_
  rw [hcolumn] at hcolumn'
  simp only [Text.width_append, Text.width] at hcolumn'
  omega

theorem exists_encloses_of_endCurlyAt (hi : inspect line = some h)
    (hend : h.endCurlyAt = some column) :
    ∃ inside, Encloses line inside column ∧ '\x7d' ∉ inside := by
  rw [inspect_eq_map] at hi
  obtain ⟨keyword, hk, rfl⟩ := Option.map_eq_some_iff.mp hi
  obtain ⟨e, he, rfl⟩ := Option.map_eq_some_iff.mp hend
  obtain ⟨b, hb, hclose⟩ := Option.bind_eq_some_iff.mp he
  obtain ⟨condition, body, hsplit, hnot, htake, hbody⟩ := exists_condition hk hb
  rw [findFrom, hbody] at hclose
  obtain ⟨i, hfound, rfl⟩ := Option.map_eq_some_iff.mp hclose
  obtain ⟨inside, rest, rfl, hinside, rfl⟩ := Text.find?_singleton_eq_some_iff.mp hfound
  refine ⟨inside, ⟨keyword, condition, rest, hk, hsplit, hnot, ?_⟩, hinside⟩
  obtain ⟨-, hbrace⟩ := le_of_findFrom hb
  have hnext : line.take (b + 1) = line.take b ++ ['\x7b'] := by
    rw [List.take_add_one, hbrace, Option.toList_some]
  rw [columnOf, List.take_add, hbody, List.take_left, hnext, htake, List.append_assoc,
    List.singleton_append]

/-- The cases go in front of the first closing brace behind the first opening one. It is the
match of that opening brace exactly if no other one stands between the two, and it is always
the match of the last opening brace in front of it. -/
theorem closes_body_iff (hi : inspect line = some h) (hend : h.endCurlyAt = some column) :
    h.insertAt = column ∧ (∃ inside, Encloses line inside column) ∧
      ∀ inside, Encloses line inside column →
        (Text.Balanced inside ↔ '\x7b' ∉ inside) ∧
        ∃ outer inner, '\x7b' :: inside = outer ++ '\x7b' :: inner ∧
          '\x7b' ∉ inner ∧ '\x7d' ∉ inner := by
  obtain ⟨keyword, hk⟩ := exists_findWord_of_inspect hi
  obtain ⟨inside, hencloses, hinside⟩ := exists_encloses_of_endCurlyAt hi hend
  refine ⟨(wellOrdered_behind hk hi).insert_eq_end column hend, ⟨inside, hencloses⟩, ?_⟩
  intro other hother
  obtain rfl := hencloses.unique hother
  obtain ⟨outer, inner, hsplit, hinner⟩ :=
    Text.exists_last_of_mem (List.mem_cons_self : '\x7b' ∈ '\x7b' :: other)
  refine ⟨Text.balanced_iff_of_notMem hinside, outer, inner, hsplit, hinner, ?_⟩
  intro hin
  have hclosing : '\x7d' ∈ '\x7b' :: other := hsplit ▸ by simp [hin]
  exact hinside (by simpa using hclosing)

/-- The body of this switch is one statement; the last brace of the line closes a block that
was opened above it. -/
theorem closes_body_iff_statement :
    let line := "😀 switch (c) \x7b draw(); \x7d \x7d".toList
    let h : Header := ⟨none, false, none, false, some 24, 24⟩
    let inside := " draw(); ".toList
    inspect line = some h ∧ Encloses line inside 24 ∧ h.insertAt = 24 ∧ Text.Balanced inside := by
  intro line h inside
  have hi : inspect line = some h := by decide +kernel
  have hencloses : Encloses line inside 24 :=
    ⟨2, " (c) ".toList, " \x7d".toList, by decide +kernel⟩
  obtain ⟨hinsert, -, hmatch⟩ := closes_body_iff hi rfl
  exact ⟨hi, hencloses, hinsert, (hmatch inside hencloses).1.mpr (by decide +kernel)⟩

/-- A block in the body is closed before the body is, and the cases go into the block. -/
theorem not_balanced_of_inner_block :
    let line := "switch (c) \x7b if (a) \x7b b(); \x7d \x7d".toList
    let inside := " if (a) \x7b b(); ".toList
    inspect line = some ⟨none, false, none, false, some 27, 27⟩ ∧
      Encloses line inside 27 ∧ ¬Text.Balanced inside := by
  intro line inside
  refine ⟨by decide +kernel, ⟨0, " (c) ".toList, " \x7d".toList, ?_⟩, fun hbalanced => ?_⟩
  · decide +kernel
  · exact absurd hbalanced.count_eq (by decide +kernel)

end Header
end CaseFill
