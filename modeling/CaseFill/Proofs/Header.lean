import CaseFill.Header
import CaseFill.Proofs.Text.Search
import CaseFill.Proofs.Text.Trim

/-! The header line in parts. The columns that an inspection reports are those of
places on the line. Main statement: these places stand in the order in which the
cut line needs them, so the line falls into what comes before the opening
parenthesis, before the closing one, before the cases, and the rest. -/
namespace CaseFill

namespace Header

theorem columnOf_le {line : Text} {i j : Nat} (h : i ≤ j) : columnOf line i ≤ columnOf line j := by
  have hp : line.take i <+: line.take j := List.take_prefix_take_left h
  obtain ⟨more, hmore⟩ := hp
  rw [columnOf, columnOf, ← hmore, Text.width_append]
  exact Nat.le_add_right ..

theorem max_columnOf (line : Text) (i j : Nat) :
    max (columnOf line i) (columnOf line j) = columnOf line (max i j) := by
  rcases Nat.le_total i j with h | h
  · rw [Nat.max_eq_right (columnOf_le h), Nat.max_eq_right h]
  · rw [Nat.max_eq_left (columnOf_le h), Nat.max_eq_left h]

theorem width_trimEnd_take (line : Text) (b : Nat) :
    Text.width (Text.trimEnd (line.take b)) =
        columnOf line (Text.trimEnd (line.take b)).length ∧
      (Text.trimEnd (line.take b)).length ≤ b := by
  have hp : Text.trimEnd (line.take b) <+: line := (Text.trimEnd_prefix _).trans (List.take_prefix ..)
  refine ⟨?_, ?_⟩
  · rw [columnOf, ← List.prefix_iff_eq_take.mp hp]
  · exact (Text.trimEnd_prefix _).length_le.trans (List.length_take_le ..)

theorem le_of_findFrom {c : Char} {t : Text} {start i : Nat}
    (h : findFrom c t start = some i) : start ≤ i ∧ t[i]? = some c := by
  obtain ⟨j, hj, rfl⟩ := Option.map_eq_some_iff.mp h
  have hget := Text.getElem?_of_find?_singleton hj
  rw [List.getElem?_drop] at hget
  exact ⟨Nat.le_add_right .., hget⟩

def blanksAfter (line : Text) (keyword : Nat) : Text :=
  (line.drop (keyword + switchKeyword.length)).takeWhile Text.isBlank

def openPlace (line : Text) (keyword : Nat) : Option Nat :=
  if (line.drop (keyword + switchKeyword.length)).contains '(' then none
  else some (keyword + switchKeyword.length + (blanksAfter line keyword).length)

def closePlace (line : Text) (keyword : Nat) : Option Nat :=
  (findFrom '\x7b' line keyword).bind fun b =>
    if (line.drop keyword).contains ')' then none
    else some (atLeast (openPlace line keyword) (Text.trimEnd (line.take b)).length)

def endPlace (line : Text) (keyword : Nat) : Option Nat :=
  (findFrom '\x7b' line keyword).bind fun b => findFrom '\x7d' line (b + 1)

def casesPlace (line : Text) (keyword : Nat) : Nat := (endPlace line keyword).getD line.length

theorem atLeast_columnOf (line : Text) (other : Option Nat) (i : Nat) :
    atLeast (other.map (columnOf line)) (columnOf line i) = columnOf line (atLeast other i) := by
  cases other with
  | none => rfl
  | some j => exact max_columnOf line i j

/-- The columns of a header are those of its places. -/
theorem inspect_eq_map (line : Text) :
    inspect line = (Text.findWord switchKeyword line).map fun keyword =>
      { openParenAt := (openPlace line keyword).map (columnOf line)
        needsCloseParen := !(line.drop keyword).contains ')'
        closeParenAt := (closePlace line keyword).map (columnOf line)
        needsOpenBrace := (findFrom '\x7b' line keyword).isNone
        endCurlyAt := (endPlace line keyword).map (columnOf line)
        insertAt := columnOf line (casesPlace line keyword) } := by
  unfold inspect
  cases Text.findWord switchKeyword line with
  | none => rfl
  | some keyword =>
    have hopen : (openPlace line keyword).map (columnOf line) =
        if (line.drop (keyword + switchKeyword.length)).contains '(' then none
        else some (columnOf line
          (keyword + switchKeyword.length + (blanksAfter line keyword).length)) := by
      rw [openPlace]
      split <;> rfl
    cases hb : findFrom '\x7b' line keyword with
    | none => simp [hb, hopen, blanksAfter, closePlace, endPlace, casesPlace, columnOf]
    | some b =>
      have hclose : (closePlace line keyword).map (columnOf line) =
          if (line.drop keyword).contains ')' then none
          else some (atLeast ((openPlace line keyword).map (columnOf line))
            (Text.width (Text.trimEnd (line.take b)))) := by
        rw [closePlace, hb, (width_trimEnd_take line b).1, atLeast_columnOf, Option.bind_some]
        split <;> rfl
      have hinsert : columnOf line (casesPlace line keyword) =
          ((findFrom '\x7d' line (b + 1)).map (columnOf line)).getD (Text.width line) := by
        rw [casesPlace, endPlace, hb, Option.bind_some]
        cases findFrom '\x7d' line (b + 1) <;> simp [columnOf]
      have hend : ((findFrom '\x7d' line (b + 1)).bind fun close => some (columnOf line close)) =
          (findFrom '\x7d' line (b + 1)).map (columnOf line) := Option.map_eq_bind.symm
      rw [hopen] at hclose
      simp [hb, hopen, hclose, hinsert, hend, blanksAfter, endPlace]

theorem exists_findWord_of_inspect {line : Text} {h : Header} (hi : inspect line = some h) :
    ∃ keyword, Text.findWord switchKeyword line = some keyword := by
  rw [inspect_eq_map] at hi
  obtain ⟨keyword, hk, -⟩ := Option.map_eq_some_iff.mp hi
  exact ⟨keyword, hk⟩

theorem isIdentChar_of_mem_keyword : ∀ c ∈ switchKeyword, Text.isIdentChar c = true :=
  List.all_eq_true.mp (by decide)

theorem isSome_inspect_iff (line : Text) :
    (inspect line).isSome = true ↔ Text.HasWord switchKeyword line := by
  rw [inspect_eq_map, Option.isSome_map]
  exact Text.isSome_findWord_iff isIdentChar_of_mem_keyword (by decide)

/-- No brace stands in the keyword or in the blanks behind it. -/
theorem le_brace {t : Text} {keyword b : Nat} (hk : switchKeyword <+: t.drop keyword)
    (hb : keyword ≤ b) (hget : t[b]? = some '\x7b') :
    keyword + switchKeyword.length + (blanksAfter t keyword).length ≤ b := by
  by_contra hlt
  obtain ⟨rest, hrest⟩ := hk
  have hdrop : t.drop (keyword + switchKeyword.length) = rest := by
    rw [← List.drop_drop, ← hrest, List.drop_left]
  have hblanks : blanksAfter t keyword <+: rest := by
    rw [blanksAfter, hdrop]
    exact List.takeWhile_prefix _
  obtain ⟨tail, htail⟩ := hblanks
  have hget' : (switchKeyword ++ blanksAfter t keyword ++ tail)[b - keyword]? =
      some '\x7b' := by
    rw [List.append_assoc, htail, hrest, List.getElem?_drop, Nat.add_sub_cancel' hb, hget]
  rw [List.getElem?_append_left (by rw [List.length_append]; omega)] at hget'
  rcases List.mem_append.mp (List.mem_of_getElem? hget') with hin | hin
  · exact absurd hin (by decide)
  · exact absurd (List.mem_takeWhile_imp hin) (by decide)

structure Parts (line : Text) (h : Header) where
  /-- Up to a missing opening parenthesis. -/
  head : Text
  /-- From there up to a missing closing parenthesis. -/
  condition : Text
  /-- From there up to the place of the cases. -/
  brace : Text
  tail : Text
  line_eq : line = head ++ condition ++ brace ++ tail
  openParenAt_eq : ∀ c, h.openParenAt = some c → c = Text.width head
  closeParenAt_eq : ∀ c, h.closeParenAt = some c → c = Text.width (head ++ condition)
  insertAt_eq : h.insertAt = Text.width (head ++ condition ++ brace)

namespace Parts
variable {line : Text} {h : Header} (parts : Parts line h)

theorem head_prefix : parts.head <+: line :=
  ⟨parts.condition ++ parts.brace ++ parts.tail, by simpa using parts.line_eq.symm⟩

theorem condition_prefix : parts.head ++ parts.condition <+: line :=
  ⟨parts.brace ++ parts.tail, by simpa using parts.line_eq.symm⟩

theorem brace_prefix : parts.head ++ parts.condition ++ parts.brace <+: line :=
  ⟨parts.tail, parts.line_eq.symm⟩

include parts in
theorem open_le_close {c d : Nat} (hc : h.openParenAt = some c) (hd : h.closeParenAt = some d) :
    c ≤ d := by
  rw [parts.openParenAt_eq c hc, parts.closeParenAt_eq d hd, Text.width_append]
  omega

include parts in
theorem open_le_insert {c : Nat} (hc : h.openParenAt = some c) : c ≤ h.insertAt := by
  rw [parts.openParenAt_eq c hc, parts.insertAt_eq, Text.width_append, Text.width_append]
  omega

include parts in
theorem close_le_insert {d : Nat} (hd : h.closeParenAt = some d) : d ≤ h.insertAt := by
  rw [parts.closeParenAt_eq d hd, parts.insertAt_eq, Text.width_append _ parts.brace]
  omega

end Parts

def Parts.ofPlaces {line : Text} {h : Header} {i j k : Nat} (hij : i ≤ j) (hjk : j ≤ k)
    (hopen : ∀ c, h.openParenAt = some c → c = columnOf line i)
    (hclose : ∀ c, h.closeParenAt = some c → c = columnOf line j)
    (hinsert : h.insertAt = columnOf line k) : Parts line h :=
  have hj : line.take i ++ (line.take j).drop i = line.take j := by
    have h := List.take_append_drop i (line.take j)
    rwa [List.take_take, Nat.min_eq_left hij] at h
  have hk : line.take i ++ (line.take j).drop i ++ (line.take k).drop j = line.take k := by
    have h := List.take_append_drop j (line.take k)
    rwa [List.take_take, Nat.min_eq_left hjk, ← hj] at h
  { head := line.take i
    condition := (line.take j).drop i
    brace := (line.take k).drop j
    tail := line.drop k
    line_eq := by rw [hk, List.take_append_drop]
    openParenAt_eq := hopen
    closeParenAt_eq := by rwa [hj]
    insertAt_eq := by rwa [hk] }

structure Ordered (line : Text) (keyword : Nat) : Prop where
  open_le_close : ∀ i j, openPlace line keyword = some i → closePlace line keyword = some j → i ≤ j
  open_le_cases : ∀ i, openPlace line keyword = some i → i ≤ casesPlace line keyword
  close_le_cases : ∀ j, closePlace line keyword = some j → j ≤ casesPlace line keyword

theorem brace_lt_cases {line : Text} {keyword b : Nat}
    (hb : findFrom '\x7b' line keyword = some b) : b < casesPlace line keyword := by
  rw [casesPlace, endPlace, hb, Option.bind_some]
  cases he : findFrom '\x7d' line (b + 1) with
  | none => exact (List.getElem?_eq_some_iff.mp (le_of_findFrom hb).2).1
  | some e => exact (le_of_findFrom he).1

theorem openPlace_le_length {line : Text} {keyword i : Nat}
    (hk : switchKeyword <+: line.drop keyword) (hi : openPlace line keyword = some i) :
    i ≤ line.length := by
  have hword := hk.length_le
  have hblanks : (blanksAfter line keyword).length ≤ _ := (List.takeWhile_prefix _).length_le
  rw [List.length_drop] at hword hblanks
  rw [openPlace] at hi
  have hpos : 0 < switchKeyword.length := by decide
  split at hi
  · cases hi
  · cases hi
    omega

/-- A closing parenthesis has a place of its own only in front of a brace. -/
theorem exists_brace_of_closePlace {line : Text} {keyword j : Nat}
    (h : closePlace line keyword = some j) :
    ∃ b, findFrom '\x7b' line keyword = some b ∧
      j = atLeast (openPlace line keyword) (Text.trimEnd (line.take b)).length := by
  obtain ⟨b, hb, hj⟩ := Option.bind_eq_some_iff.mp h
  split at hj
  · cases hj
  · cases hj
    exact ⟨b, hb, rfl⟩

theorem ordered_of_findWord {line : Text} {keyword : Nat}
    (hk : Text.findWord switchKeyword line = some keyword) : Ordered line keyword := by
  have hp := Text.prefix_of_findWord hk
  have hopen : ∀ i b, openPlace line keyword = some i →
      findFrom '\x7b' line keyword = some b → i ≤ b := by
    intro i b hi hb
    obtain ⟨hle, hget⟩ := le_of_findFrom hb
    rw [openPlace] at hi
    split at hi
    · cases hi
    · cases hi
      exact le_brace hp hle hget
  refine ⟨?_, ?_, ?_⟩
  · intro i j hi hj
    obtain ⟨b, -, rfl⟩ := exists_brace_of_closePlace hj
    rw [hi]
    exact Nat.le_max_right ..
  · intro i hi
    cases hb : findFrom '\x7b' line keyword with
    | some b => exact (hopen i b hi hb).trans (brace_lt_cases hb).le
    | none =>
      have hcases : casesPlace line keyword = line.length := by
        rw [casesPlace, endPlace, hb, Option.bind_none, Option.getD_none]
      exact hcases ▸ openPlace_le_length hp hi
  · intro j hj
    obtain ⟨b, hb, rfl⟩ := exists_brace_of_closePlace hj
    have hcases := brace_lt_cases hb
    have htrim := (width_trimEnd_take line b).2
    cases ho : openPlace line keyword with
    | none => exact htrim.trans hcases.le
    | some i =>
      have hi := hopen i b ho hb
      exact Nat.max_le.mpr ⟨by omega, by omega⟩

/-- Every header line can be cut at the places that its columns name. -/
theorem nonempty_parts {line : Text} {h : Header} (hi : inspect line = some h) :
    Nonempty (Parts line h) := by
  rw [inspect_eq_map] at hi
  obtain ⟨keyword, hk, rfl⟩ := Option.map_eq_some_iff.mp hi
  obtain ⟨hoc, hoi, hci⟩ := ordered_of_findWord hk
  generalize openPlace line keyword = first at hoc hoi
  generalize closePlace line keyword = second at hoc hci
  -- A parenthesis that is there already needs no place of its own.
  refine ⟨Parts.ofPlaces (i := first.getD 0) (j := second.getD (first.getD 0))
    (k := casesPlace line keyword) ?_ ?_ ?_ ?_ rfl⟩
  · cases first with
    | none => exact Nat.zero_le _
    | some i => cases second with
      | none => exact Nat.le_refl _
      | some j => exact hoc i j rfl rfl
  · cases second with
    | some j => exact hci j rfl
    | none => cases first with
      | none => exact Nat.zero_le _
      | some i => exact hoi i rfl
  · intro c hc
    cases first <;> simp_all
  · intro c hc
    cases second <;> simp_all

end Header
end CaseFill
