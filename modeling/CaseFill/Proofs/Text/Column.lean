import CaseFill.Proofs.Text.Boundary
import CaseFill.Proofs.Text.Line
import Mathlib.Data.List.Basic
import Mathlib.Order.Bounds.Basic

/-! Columns against byte offsets. A column cuts a line behind the first character that
reaches it. Main statement: the two conversions are adjoint, so the offset of a column is the
least boundary whose column is not smaller, and a boundary is the offset of its own column. -/
namespace CaseFill.Text
variable {t x y : Text} {n b : Nat}

/-- The text reaches column `n`, and it does not without its last character. -/
structure Reaches (x : Text) (n : Nat) : Prop where
  le_width : n ≤ width x
  lt_of_concat : ∀ w c, x = w ++ [c] → width w < n

theorem reaches_zero_iff : Reaches x 0 ↔ x = [] := by
  constructor
  · intro h
    rcases List.eq_nil_or_concat' x with rfl | ⟨w, c, rfl⟩
    · rfl
    · exact absurd (h.lt_of_concat w c rfl) (Nat.not_lt_zero _)
  · rintro rfl
    exact ⟨Nat.zero_le _, by simp⟩

theorem reaches_cons_iff {c : Char} : Reaches (c :: x) (n + 1) ↔ Reaches x (n + 1 - units c) := by
  constructor
  · intro h
    have hle := h.le_width
    rw [width] at hle
    refine ⟨by omega, ?_⟩
    intro w d hw
    have hlt := h.lt_of_concat (c :: w) d (by rw [hw, List.cons_append])
    rw [width] at hlt
    omega
  · intro h
    have hle := h.le_width
    refine ⟨by rw [width]; omega, ?_⟩
    intro w d hw
    cases w with
    | nil => exact Nat.succ_pos n
    | cons e w =>
      obtain ⟨rfl, hx⟩ := List.cons.inj hw
      have hlt := h.lt_of_concat w d hx
      rw [width]
      omega

theorem splitAtColumn_eq_some_iff :
    splitAtColumn t n = some (x, y) ↔ t = x ++ y ∧ Reaches x n := by
  constructor
  · intro h
    fun_induction splitAtColumn t n generalizing x y with
    | case1 =>
      cases h
      exact ⟨rfl, reaches_zero_iff.mpr rfl⟩
    | case2 => cases h
    | case3 c cs n ih =>
      obtain ⟨⟨z, y⟩, hz, hcut⟩ := Option.map_eq_some_iff.mp h
      cases hcut
      obtain ⟨rfl, hreaches⟩ := ih hz
      exact ⟨rfl, reaches_cons_iff.mpr hreaches⟩
  · rintro ⟨rfl, h⟩
    induction x generalizing n with
    | nil =>
      obtain rfl : n = 0 := Nat.le_zero.mp h.le_width
      cases y <;> rfl
    | cons c x ih =>
      cases n with
      | zero => cases reaches_zero_iff.mp h
      | succ n =>
        rw [List.cons_append, splitAtColumn, ih (reaches_cons_iff.mp h)]
        rfl

theorem splitAtColumn_eq_none_iff : splitAtColumn t n = none ↔ width t < n := by
  fun_induction splitAtColumn t n with
  | case1 => simp
  | case2 n => simp [width]
  | case3 c cs n ih =>
    rw [Option.map_eq_none_iff, ih, width]
    omega

theorem byteAtColumn_eq_some_iff :
    byteAtColumn t n = some b ↔ ∃ x y, t = x ++ y ∧ Reaches x n ∧ byteSize x = b := by
  simp only [byteAtColumn_eq_map, Option.map_eq_some_iff, Prod.exists, splitAtColumn_eq_some_iff,
    and_assoc]

theorem columnAtByte_eq_some_iff :
    columnAtByte t b = some n ↔ ∃ x y, t = x ++ y ∧ byteSize x = b ∧ width x = n := by
  simp only [columnAtByte_eq_map, Option.map_eq_some_iff, Prod.exists, cutAtByte_eq_some_iff,
    and_assoc]

/-- Column `n` lies between the two units of a character. -/
def InsidePair (t : Text) (n : Nat) : Prop :=
  ∃ before c after, t = before ++ c :: after ∧ units c = 2 ∧ n = width before + 1

theorem Reaches.width_eq (h : Reaches x n) (hnot : ¬InsidePair (x ++ y) n) : width x = n := by
  obtain ⟨hle, hlt⟩ := h
  rcases List.eq_nil_or_concat' x with rfl | ⟨w, c, rfl⟩
  · exact (Nat.le_zero.mp hle).symm
  · have hw := hlt w c rfl
    have hunits : units c = 1 ∨ units c = 2 := by
      unfold units
      split <;> simp
    rw [width_append, width, width] at hle ⊢
    rcases hunits with hc | hc
    · omega
    · have hn : n ≠ width w + 1 := fun hn => hnot ⟨w, c, y, by simp, hc, hn⟩
      omega

theorem reaches_of_units {w : Text} {c : Char} (hc : units c = 2) :
    Reaches (w ++ [c]) (width w + 1) := by
  refine ⟨by rw [width_append, width, hc]; omega, ?_⟩
  intro v d hv
  obtain rfl := List.append_inj_left' hv rfl
  omega

/-- The adjunction: the part that reaches a column begins every part that is as wide. -/
theorem Reaches.prefix_iff {w : Text} (h : Reaches x n) (hx : x <+: t) (hw : w <+: t) :
    x <+: w ↔ n ≤ width w := by
  constructor
  · intro hxw
    exact h.le_width.trans ((width_le_iff hx hw).mpr hxw)
  · intro hle
    rcases List.prefix_or_prefix_of_prefix hx hw with hxw | ⟨more, rfl⟩
    · exact hxw
    · rcases List.eq_nil_or_concat' more with rfl | ⟨front, c, rfl⟩
      · simp
      · have hlt := h.lt_of_concat (w ++ front) c (by rw [List.append_assoc])
        rw [width_append] at hlt
        omega

theorem byteAtColumn_le_iff {m a : Nat} (hb : byteAtColumn t n = some b)
    (ha : columnAtByte t a = some m) : b ≤ a ↔ n ≤ m := by
  obtain ⟨x, y, hx, hreaches, rfl⟩ := byteAtColumn_eq_some_iff.mp hb
  obtain ⟨w, v, hw, rfl, rfl⟩ := columnAtByte_eq_some_iff.mp ha
  have hxt : x <+: t := ⟨y, hx.symm⟩
  have hwt : w <+: t := ⟨v, hw.symm⟩
  rw [byteSize_le_iff hxt hwt, hreaches.prefix_iff hxt hwt]

theorem columnAtByte_of_byteAtColumn (h : byteAtColumn t n = some b) :
    (¬InsidePair t n → columnAtByte t b = some n) ∧
      (InsidePair t n → columnAtByte t b = some (n + 1)) := by
  obtain ⟨x, y, rfl, hreaches, rfl⟩ := byteAtColumn_eq_some_iff.mp h
  constructor
  · intro hnot
    exact columnAtByte_eq_some_iff.mpr ⟨x, y, rfl, rfl, hreaches.width_eq hnot⟩
  · rintro ⟨before, c, after, ht, hc, rfl⟩
    -- the column cuts the text behind that character
    have hcut : splitAtColumn (x ++ y) (width before + 1) = some (before ++ [c], after) :=
      splitAtColumn_eq_some_iff.mpr ⟨by rw [ht, List.append_assoc, List.singleton_append],
        reaches_of_units hc⟩
    rw [splitAtColumn_eq_some_iff.mpr ⟨rfl, hreaches⟩, Option.some.injEq, Prod.mk.injEq] at hcut
    refine columnAtByte_eq_some_iff.mpr ⟨x, y, rfl, rfl, ?_⟩
    rw [hcut.1, width_append, width, width, hc]

theorem exists_columnAtByte (h : byteAtColumn t n = some b) :
    ∃ m, columnAtByte t b = some m ∧ n ≤ m := by
  obtain ⟨x, y, hx, hreaches, hsize⟩ := byteAtColumn_eq_some_iff.mp h
  exact ⟨width x, columnAtByte_eq_some_iff.mpr ⟨x, y, hx, hsize, rfl⟩, hreaches.le_width⟩

theorem byteAtColumn_of_columnAtByte (h : columnAtByte t b = some n) :
    byteAtColumn t n = some b := by
  obtain ⟨x, y, rfl, rfl, rfl⟩ := columnAtByte_eq_some_iff.mp h
  rw [byteAtColumn_eq_map, splitAtColumn_width, Option.map_some]

theorem isSome_columnAtByte_iff : (columnAtByte t b).isSome = true ↔ IsBoundary t b := by
  rw [columnAtByte_eq_map, Option.isSome_map, isSome_cutAtByte_iff]

structure Adjoint (line : Text) : Prop where
  column_iff : ∀ b, (columnAtByte line b).isSome = true ↔ IsBoundary line b
  offset_of_column : ∀ b, IsBoundary line b →
    (columnAtByte line b).bind (byteAtColumn line) = some b
  no_offset_iff : ∀ n, byteAtColumn line n = none ↔ width line < n
  least : ∀ n b, byteAtColumn line n = some b →
    IsLeast {a | ∃ m, columnAtByte line a = some m ∧ n ≤ m} b
  column_of_offset : ∀ n b, byteAtColumn line n = some b →
    (¬InsidePair line n → columnAtByte line b = some n) ∧
      (InsidePair line n → columnAtByte line b = some (n + 1))
  column_mono : ∀ a b m n, columnAtByte line a = some m → columnAtByte line b = some n →
    a ≤ b → m ≤ n
  offset_mono : ∀ m n a b, byteAtColumn line m = some a → byteAtColumn line n = some b →
    m ≤ n → a ≤ b

theorem adjoint_columns (line : Text) : Adjoint line := by
  constructor
  case column_iff =>
    intro b
    exact isSome_columnAtByte_iff
  case offset_of_column =>
    intro b hb
    obtain ⟨n, hn⟩ := Option.isSome_iff_exists.mp (isSome_columnAtByte_iff.mpr hb)
    rw [hn, Option.bind_some, byteAtColumn_of_columnAtByte hn]
  case no_offset_iff =>
    intro n
    rw [byteAtColumn_eq_map, Option.map_eq_none_iff, splitAtColumn_eq_none_iff]
  case least =>
    intro n b hb
    refine ⟨exists_columnAtByte hb, ?_⟩
    rintro a ⟨m, ha, hle⟩
    exact (byteAtColumn_le_iff hb ha).mpr hle
  case column_of_offset =>
    intro n b hb
    exact columnAtByte_of_byteAtColumn hb
  case column_mono =>
    intro a b m n ha hb hle
    exact (byteAtColumn_le_iff (byteAtColumn_of_columnAtByte ha) hb).mp hle
  case offset_mono =>
    intro m n a b ha hb hle
    obtain ⟨k, hk, hnk⟩ := exists_columnAtByte hb
    exact (byteAtColumn_le_iff ha hk).mpr (hle.trans hnk)

/-- The second character has two units and four bytes. -/
example : byteAtColumn "a🎨b".toList 2 = some 5 ∧ columnAtByte "a🎨b".toList 5 = some 3 ∧
    columnAtByte "a🎨b".toList 2 = none := by decide

end CaseFill.Text
