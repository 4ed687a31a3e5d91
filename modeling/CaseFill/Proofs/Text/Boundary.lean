import CaseFill.Text.Column

/-! The boundaries of a text: the byte offsets between its characters, in UTF-8. Main
statements: a text can be cut at a byte offset exactly if the offset is a boundary, and the
parts of a text that end at boundaries are ordered alike by bytes and by columns. -/
namespace CaseFill.Text
variable {t x y : Text} {b : Nat}

theorem byteSize_eq_utf8ByteSize (t : Text) : byteSize t = (String.ofList t).utf8ByteSize := by
  induction t with
  | nil => simp [byteSize]
  | cons c cs ih => simp [byteSize, ih, String.ofList_cons]

/-- In the UTF-8 encoding of a text a character begins or the text ends at this offset. -/
def IsBoundary (t : Text) (b : Nat) : Prop := String.Pos.Raw.IsValid (String.ofList t) ⟨b⟩

theorem isBoundary_iff : IsBoundary t b ↔ ∃ x y, t = x ++ y ∧ byteSize x = b := by
  rw [IsBoundary, String.Pos.Raw.isValid_ofList]
  constructor
  · rintro ⟨i, hi⟩
    exact ⟨t.take i, t.drop i, (List.take_append_drop i t).symm, by
      rw [byteSize_eq_utf8ByteSize, ← hi]⟩
  · rintro ⟨x, y, rfl, rfl⟩
    exact ⟨x.length, by rw [List.take_left, byteSize_eq_utf8ByteSize]⟩

/-- A text cut in two at a byte offset. It cannot be cut inside a character or past its end. -/
def cutAtByte : Text → Nat → Option (Text × Text)
  | t, 0 => some ([], t)
  | [], _ + 1 => none
  | c :: cs, b + 1 =>
    if c.utf8Size ≤ b + 1 then
      (cutAtByte cs (b + 1 - c.utf8Size)).map fun p => (c :: p.1, p.2)
    else none

theorem cutAtByte_append (x y : Text) : cutAtByte (x ++ y) (byteSize x) = some (x, y) := by
  induction x with
  | nil => cases y <;> rfl
  | cons c cs ih =>
    obtain ⟨n, hn⟩ : ∃ n, byteSize (c :: cs) = n + 1 := by
      have hpos := c.utf8Size_pos
      exact Nat.exists_eq_add_one.mpr (by rw [byteSize]; omega)
    have hrest : n + 1 - c.utf8Size = byteSize cs := by
      rw [byteSize] at hn
      omega
    have hfits : c.utf8Size ≤ n + 1 := by
      rw [← hn, byteSize]
      omega
    rw [hn, List.cons_append, cutAtByte, if_pos hfits, hrest, ih]
    rfl

theorem cutAtByte_eq_some_iff : cutAtByte t b = some (x, y) ↔ t = x ++ y ∧ byteSize x = b := by
  constructor
  · intro h
    induction t generalizing b x y with
    | nil =>
      cases b with
      | zero =>
        cases h
        exact ⟨rfl, rfl⟩
      | succ b => cases h
    | cons c cs ih =>
      cases b with
      | zero =>
        cases h
        exact ⟨rfl, rfl⟩
      | succ b =>
        rw [cutAtByte, Option.ite_none_right_eq_some, Option.map_eq_some_iff] at h
        obtain ⟨hfits, ⟨z, y⟩, hz, hcut⟩ := h
        cases hcut
        obtain ⟨rfl, hsize⟩ := ih hz
        exact ⟨rfl, by rw [byteSize, hsize]; omega⟩
  · rintro ⟨rfl, rfl⟩
    exact cutAtByte_append x y

theorem isSome_cutAtByte_iff : (cutAtByte t b).isSome = true ↔ IsBoundary t b := by
  simp only [Option.isSome_iff_exists, Prod.exists, cutAtByte_eq_some_iff, isBoundary_iff]

theorem columnAtByte_eq_map (t : Text) (b : Nat) :
    columnAtByte t b = (cutAtByte t b).map fun p => width p.1 := by
  fun_induction columnAtByte t b with
  | case1 => cases ‹Text› <;> rfl
  | case2 => rfl
  | case3 c cs b hfits ih => simp [cutAtByte, hfits, ih, Function.comp_def, width]
  | case4 c cs b hfits => simp [cutAtByte, hfits]

theorem byteAtColumn_eq_map (t : Text) (n : Nat) :
    byteAtColumn t n = (splitAtColumn t n).map fun p => byteSize p.1 := by
  fun_induction byteAtColumn t n with
  | case1 => cases ‹Text› <;> rfl
  | case2 => rfl
  | case3 c cs n ih => simp [splitAtColumn, ih, Function.comp_def, byteSize]

/-- Of the texts that begin a text, one that does not measure more begins the other. -/
theorem prefix_of_measure_le {measure : Text → Nat}
    (hgrows : ∀ s c u, measure s < measure (s ++ c :: u)) (hx : x <+: t) (hy : y <+: t)
    (h : measure x ≤ measure y) : x <+: y := by
  rcases List.prefix_or_prefix_of_prefix hx hy with hxy | ⟨more, rfl⟩
  · exact hxy
  · cases more with
    | nil => simp
    | cons c u =>
      have hlonger := hgrows y c u
      omega

theorem byteSize_le_iff (hx : x <+: t) (hy : y <+: t) : byteSize x ≤ byteSize y ↔ x <+: y := by
  constructor
  · refine prefix_of_measure_le ?_ hx hy
    intro s c u
    have hpos := c.utf8Size_pos
    rw [byteSize_append, byteSize]
    omega
  · rintro ⟨more, rfl⟩
    rw [byteSize_append]
    omega

theorem width_le_iff (hx : x <+: t) (hy : y <+: t) : width x ≤ width y ↔ x <+: y := by
  constructor
  · refine prefix_of_measure_le ?_ hx hy
    intro s c u
    have hpos := units_pos c
    rw [width_append, width]
    omega
  · rintro ⟨more, rfl⟩
    rw [width_append]
    omega

theorem eq_of_prefix_of_width (hx : x <+: t) (hy : y <+: t) (h : width x = width y) : x = y := by
  have hxy := (width_le_iff hx hy).mp (Nat.le_of_eq h)
  have hyx := (width_le_iff hy hx).mp (Nat.le_of_eq h.symm)
  exact hxy.eq_of_length_le hyx.length_le

end CaseFill.Text
