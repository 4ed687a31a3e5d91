import CaseFill.Text.Word
import CaseFill.Proofs.Text.Column
import Mathlib.Data.List.DropRight

/-! The identifier that a position touches. A position cuts its line in two, and the
identifier characters on both sides of the cut form one run. Main statement: every maximal run
is found from each of its columns, both ends included, and nothing else is found. -/
namespace CaseFill.Text
variable {before after : Text}

theorem takeWhile_isIdentChar {run rest : Text} (hrun : ∀ c ∈ run, isIdentChar c = true)
    (hrest : isEdge rest.head? = true) : (run ++ rest).takeWhile isIdentChar = run := by
  have hstop : rest.takeWhile isIdentChar = [] := by
    cases rest with
    | nil => rfl
    | cons c cs => exact List.takeWhile_cons_of_neg (by simpa [isEdge] using hrest)
  rw [List.takeWhile_append_of_pos hrun, hstop, List.append_nil]

theorem isEdge_head?_dropWhile (t : Text) : isEdge (t.dropWhile isIdentChar).head? = true := by
  have hnot := List.head?_dropWhile_not isIdentChar t
  cases hhead : (t.dropWhile isIdentChar).head? with
  | none => rfl
  | some c =>
    rw [hhead] at hnot
    simp [isEdge, hnot]

/-- Between `left` and `right` stands a run of identifier characters that goes on at neither
end. -/
structure IsRun (left run right : Text) : Prop where
  ident : ∀ c ∈ run, isIdentChar c = true
  left_edge : isEdge left.getLast? = true
  right_edge : isEdge right.head? = true

theorem exists_isRun (before after : Text) :
    ∃ left front back right, before = left ++ front ∧ after = back ++ right ∧
      IsRun left (front ++ back) right := by
  refine ⟨before.rdropWhile isIdentChar, before.rtakeWhile isIdentChar,
    after.takeWhile isIdentChar, after.dropWhile isIdentChar,
    List.rdropWhile_append_rtakeWhile.symm, List.takeWhile_append_dropWhile.symm, ?_, ?_, ?_⟩
  · intro c hc
    rcases List.mem_append.mp hc with hfront | hback
    · exact List.mem_rtakeWhile_imp hfront
    · exact List.mem_takeWhile_imp hback
  · rw [List.rdropWhile, List.getLast?_reverse]
    exact isEdge_head?_dropWhile before.reverse
  · exact isEdge_head?_dropWhile after

theorem IsRun.runAround_eq {left front back right : Text} (h : IsRun left (front ++ back) right) :
    runAround (left ++ front) (back ++ right) = front ++ back := by
  obtain ⟨hfront, hback⟩ := List.forall_mem_append.mp h.ident
  have hbefore : (left ++ front).reverse.takeWhile isIdentChar = front.reverse := by
    rw [List.reverse_append]
    refine takeWhile_isIdentChar (by simpa using hfront) ?_
    rw [List.head?_reverse]
    exact h.left_edge
  rw [runAround, hbefore, takeWhile_isIdentChar hback h.right_edge, List.reverse_reverse]

theorem runAround_eq_nil_iff {before after : Text} : runAround before after = [] ↔
    isEdge before.getLast? = true ∧ isEdge after.head? = true := by
  constructor
  · intro h
    obtain ⟨left, front, back, right, rfl, rfl, hrun⟩ := exists_isRun before after
    rw [hrun.runAround_eq, List.append_eq_nil_iff] at h
    obtain ⟨rfl, rfl⟩ := h
    rw [List.append_nil]
    exact ⟨hrun.left_edge, hrun.right_edge⟩
  · rintro ⟨hleft, hright⟩
    have hrun : IsRun before ([] ++ []) after := ⟨by simp, hleft, hright⟩
    have hempty := hrun.runAround_eq
    rwa [List.append_nil] at hempty

theorem Reaches.append {x left : Text} {n : Nat} (hleft : width left ≤ n)
    (h : Reaches x (n - width left)) : Reaches (left ++ x) n := by
  have hle := h.le_width
  refine ⟨by rw [width_append]; omega, ?_⟩
  intro w c hw
  rcases List.eq_nil_or_concat' x with rfl | ⟨front, d, rfl⟩
  · have hpos := units_pos c
    have hwidth := congrArg width hw
    simp only [width_append, width] at hwidth
    omega
  · rw [← List.append_assoc] at hw
    obtain ⟨rfl, -⟩ := List.append_inj' hw rfl
    have hlt := h.lt_of_concat front d rfl
    rw [width_append]
    omega

theorem exists_cut_of_column {left run : Text} {column : Nat} (hstart : width left ≤ column)
    (hend : column ≤ width (left ++ run)) (right : Text) :
    ∃ front back, run = front ++ back ∧
      splitAtColumn (left ++ run ++ right) column = some (left ++ front, back ++ right) := by
  have hinside : column - width left ≤ width run := by
    rw [width_append] at hend
    omega
  cases hcut : splitAtColumn run (column - width left) with
  | none =>
    have hpast := splitAtColumn_eq_none_iff.mp hcut
    omega
  | some parts =>
    obtain ⟨hrun, hreaches⟩ := splitAtColumn_eq_some_iff.mp hcut
    refine ⟨parts.1, parts.2, hrun, splitAtColumn_eq_some_iff.mpr ⟨?_, hreaches.append hstart⟩⟩
    rw [hrun]
    simp

section
variable {content line : Text} {p : Position}

theorem wordAt_of_cut {before after : Text} (hline : line? content p.line = some line)
    (hcut : splitAtColumn line p.column = some (before, after)) :
    wordAt content p =
      if runAround before after = [] then none else some (runAround before after) := by
  simp [wordAt, hline, hcut]

theorem exists_cut_of_wordAt {w : Text} (h : wordAt content p = some w) :
    ∃ line before after, line? content p.line = some line ∧
      splitAtColumn line p.column = some (before, after) ∧ runAround before after = w ∧
      w ≠ [] := by
  cases hline : line? content p.line with
  | none => simp [wordAt, hline] at h
  | some line =>
    cases hcut : splitAtColumn line p.column with
    | none => simp [wordAt, hline, hcut] at h
    | some parts =>
      rw [wordAt_of_cut hline hcut] at h
      split at h
      · cases h
      · next hne =>
        cases h
        exact ⟨line, parts.1, parts.2, rfl, hcut, rfl, hne⟩

theorem wordAt_eq_none_iff (hline : line? content p.line = some line) :
    wordAt content p = none ↔ width line < p.column ∨ ∃ before after, line = before ++ after ∧
      byteAtColumn line p.column = some (byteSize before) ∧
      isEdge before.getLast? = true ∧ isEdge after.head? = true := by
  cases hcut : splitAtColumn line p.column with
  | none =>
    have hpast := splitAtColumn_eq_none_iff.mp hcut
    simp [wordAt, hline, hcut, hpast]
  | some parts =>
    have hinside : ¬width line < p.column := by
      rw [← splitAtColumn_eq_none_iff, hcut]
      simp
    obtain ⟨hsplit, -⟩ := splitAtColumn_eq_some_iff.mp hcut
    have hbyte : byteAtColumn line p.column = some (byteSize parts.1) := by
      rw [byteAtColumn_eq_map, hcut, Option.map_some]
    rw [wordAt_of_cut hline hcut, or_iff_right hinside]
    constructor
    · intro h
      have hnone : runAround parts.1 parts.2 = [] := by simpa using h
      exact ⟨parts.1, parts.2, hsplit, hbyte, runAround_eq_nil_iff.mp hnone⟩
    · rintro ⟨before, after, hother, hsize, hedges⟩
      -- a line has only one cut at a byte offset
      have hbefore : cutAtByte line (byteSize before) = some parts := by
        rw [← Option.some.inj (hbyte.symm.trans hsize)]
        exact cutAtByte_eq_some_iff.mpr ⟨hsplit, rfl⟩
      rw [hother, cutAtByte_append, Option.some.injEq] at hbefore
      rw [← hbefore, if_pos (runAround_eq_nil_iff.mpr hedges)]

structure FindsRuns (content : Text) : Prop where
  of_column : ∀ p line left run right, line? content p.line = some line →
    line = left ++ run ++ right → IsRun left run right → run ≠ [] → width left ≤ p.column →
    p.column ≤ width (left ++ run) → wordAt content p = some run
  touches : ∀ p word, wordAt content p = some word →
    ∃ line left right b, line? content p.line = some line ∧ line = left ++ word ++ right ∧
      IsRun left word right ∧ word ≠ [] ∧ byteAtColumn line p.column = some b ∧
      byteSize left ≤ b ∧ b ≤ byteSize (left ++ word)
  none_iff : ∀ p, wordAt content p = none ↔ line? content p.line = none ∨
    ∃ line, line? content p.line = some line ∧ (width line < p.column ∨
      ∃ before after, line = before ++ after ∧
        byteAtColumn line p.column = some (byteSize before) ∧
        isEdge before.getLast? = true ∧ isEdge after.head? = true)

/-- The identifier at a position is the maximal run that the position touches. -/
theorem findsRuns_wordAt (content : Text) : FindsRuns content := by
  constructor
  case of_column =>
    rintro p _ left run right hline rfl hrun hne hstart hend
    obtain ⟨front, back, rfl, hcut⟩ := exists_cut_of_column hstart hend right
    rw [wordAt_of_cut hline hcut, hrun.runAround_eq, if_neg hne]
  case touches =>
    intro p word h
    obtain ⟨line, before, after, hline, hcut, rfl, hne⟩ := exists_cut_of_wordAt h
    obtain ⟨rfl, -⟩ := splitAtColumn_eq_some_iff.mp hcut
    obtain ⟨left, front, back, right, rfl, rfl, hrun⟩ := exists_isRun before after
    rw [hrun.runAround_eq] at hne ⊢
    refine ⟨_, left, right, byteSize (left ++ front), hline, by simp, hrun, hne, ?_, ?_, ?_⟩
    · rw [byteAtColumn_eq_map, hcut, Option.map_some]
    · rw [byteSize_append]
      omega
    · rw [← List.append_assoc, byteSize_append _ back]
      omega
  case none_iff =>
    intro p
    cases hline : line? content p.line with
    | none => simp [wordAt, hline]
    | some line => simp [wordAt_eq_none_iff hline]

/-- A column between the two units of the first letter, and one behind the last. -/
example : wordAt "(𝒳y)".toList ⟨0, 2⟩ = some "𝒳y".toList ∧
    wordAt "(𝒳y)".toList ⟨0, 4⟩ = some "𝒳y".toList := by decide +kernel

end

end CaseFill.Text
