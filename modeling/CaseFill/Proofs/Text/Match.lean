import CaseFill.Proofs.Text.Search
import Mathlib.Order.Bounds.Basic

/-! The matches of a word in a text. A search for a whole word looks at matches that do not
overlap. Main statement: for an identifier this is enough, the search finds the least byte
offset at which the word stands alone. -/
namespace CaseFill.Text
variable {word t : Text} {skip : Nat} {before : Option Char}

def offset (t : Text) (i : Nat) : Nat := byteSize (t.take i)

/-- Places of the matches behind the first `skip` characters, from left to right. Inside a
match no other one begins. -/
def matchPlaces (word : Text) : Nat → Text → List Nat
  | _, [] => []
  | skip + 1, _ :: cs => (matchPlaces word skip cs).map (· + 1)
  | 0, c :: cs =>
    if word.isPrefixOf (c :: cs) then 0 :: (matchPlaces word (word.length - 1) cs).map (· + 1)
    else (matchPlaces word 0 cs).map (· + 1)

/-- A match of `length` characters at place `i` has edges on both sides; `before` is the
character in front of the text. -/
def standsAlone (length : Nat) (before : Option Char) (t : Text) (i : Nat) : Bool :=
  isEdge ((t.take i).getLast?.or before) && isEdge (t.drop (i + length)).head?

theorem standsAlone_cons_succ (length : Nat) (c : Char) (cs : Text) (i : Nat) :
    standsAlone length before (c :: cs) (i + 1) = standsAlone length (some c) cs i := by
  rw [standsAlone, standsAlone, List.take_succ_cons, getLast?_cons_or, Nat.add_right_comm,
    List.drop_succ_cons]

theorem find?_map_succ (length : Nat) (c : Char) (cs : Text) (places : List Nat) :
    (places.map (· + 1)).find? (standsAlone length before (c :: cs)) =
      (places.find? (standsAlone length (some c) cs)).map (· + 1) := by
  rw [List.find?_map]
  congr 2
  funext i
  exact standsAlone_cons_succ length c cs i

theorem findWordFrom_eq_find? (word : Text) (skip : Nat) (before : Option Char) (t : Text) :
    findWordFrom word skip before t =
      (matchPlaces word skip t).find? (standsAlone word.length before t) := by
  fun_induction findWordFrom word skip before t with
  | case1 => cases ‹Nat› <;> rfl
  | case2 skip before c cs ih => rw [matchPlaces, find?_map_succ, ih]
  | case3 before c cs hmatch hedges =>
    have halone : standsAlone word.length before (c :: cs) 0 = true := by
      simpa [standsAlone] using hedges
    rw [matchPlaces, if_pos hmatch, List.find?_cons, halone]
  | case4 before c cs hmatch hedges ih =>
    have hglued : standsAlone word.length before (c :: cs) 0 = false := by
      simpa [standsAlone] using hedges
    rw [matchPlaces, if_pos hmatch, List.find?_cons, hglued, find?_map_succ, ih]
  | case5 before c cs hmatch ih => rw [matchPlaces, if_neg hmatch, find?_map_succ, ih]

theorem findWordByte_eq_map (word t : Text) :
    findWordByte word t = (findWord word t).map (offset t) := rfl

theorem findWordByte_eq_find? (hne : word ≠ []) (t : Text) :
    findWordByte word t =
      ((matchPlaces word 0 t).find? (standsAlone word.length none t)).map (offset t) := by
  rw [findWordByte_eq_map, findWord, if_neg hne, findWordFrom_eq_find?]

theorem offset_le {i j : Nat} (h : i ≤ j) : offset t i ≤ offset t j := by
  obtain ⟨more, hmore⟩ : t.take i <+: t.take j := List.take_prefix_take_left h
  rw [offset, offset, ← hmore, byteSize_append]
  omega

def IsWordAtByte (word t : Text) (b : Nat) : Prop :=
  ∃ left right, t = left ++ word ++ right ∧ byteSize left = b ∧
    isEdge left.getLast? = true ∧ isEdge right.head? = true

theorem isWordAtByte_iff {b : Nat} :
    IsWordAtByte word t b ↔ ∃ i, IsWordAt word none t i ∧ offset t i = b := by
  have hoffset : ∀ left right : Text,
      offset (left ++ word ++ right) left.length = byteSize left := by
    intro left right
    rw [offset, List.append_assoc, List.take_left]
  constructor
  · rintro ⟨left, right, rfl, rfl, hleft, hright⟩
    exact ⟨left.length, ⟨left, right, rfl, rfl, by rwa [Option.or_none], hright⟩,
      hoffset left right⟩
  · rintro ⟨i, ⟨left, right, rfl, rfl, hleft, hright⟩, rfl⟩
    exact ⟨left, right, rfl, (hoffset left right).symm, by rwa [Option.or_none] at hleft, hright⟩

theorem isLeast_offset {i : Nat} (hw : ∀ c ∈ word, isIdentChar c = true)
    (h : findWord word t = some i) : IsLeast {b | IsWordAtByte word t b} (offset t i) := by
  refine ⟨isWordAtByte_iff.mpr ⟨i, isWordAt_of_findWord h, rfl⟩, ?_⟩
  intro b hb
  obtain ⟨j, hj, rfl⟩ := isWordAtByte_iff.mp hb
  exact offset_le (le_of_findWord hw h hj)

/-- Only matches that do not overlap are looked at, and still an identifier is found at the
least offset at which it stands alone, whenever there is one. -/
theorem isLeast_findWordByte (hw : ∀ c ∈ word, isIdentChar c = true) (hne : word ≠ [])
    (t : Text) :
    findWordByte word t =
        ((matchPlaces word 0 t).find? (standsAlone word.length none t)).map (offset t) ∧
      (∀ b, findWordByte word t = some b ↔ IsLeast {b | IsWordAtByte word t b} b) ∧
      (findWordByte word t = none ↔ ∀ b, ¬IsWordAtByte word t b) := by
  refine ⟨findWordByte_eq_find? hne t, ?_⟩
  cases h : findWord word t with
  | none =>
    have hnone : findWordByte word t = none := by rw [findWordByte_eq_map, h, Option.map_none]
    have habsent : ∀ b, ¬IsWordAtByte word t b := by
      intro b hb
      obtain ⟨i, hi, -⟩ := isWordAtByte_iff.mp hb
      have hsome := (isSome_findWord_iff hw hne).mpr ⟨i, hi⟩
      simp [h] at hsome
    refine ⟨?_, ?_⟩
    · intro b
      constructor
      · intro hb
        simp [hnone] at hb
      · intro hb
        exact absurd hb.1 (habsent b)
    · simp [hnone, habsent]
  | some i =>
    have hsome : findWordByte word t = some (offset t i) := by
      rw [findWordByte_eq_map, h, Option.map_some]
    have hleast := isLeast_offset hw h
    refine ⟨?_, ?_⟩
    · intro b
      rw [hsome, Option.some.injEq]
      constructor
      · rintro rfl
        exact hleast
      · intro hb
        exact hleast.unique hb
    · rw [hsome]
      constructor
      · intro hb
        cases hb
      · intro habsent
        exact absurd hleast.1 (habsent _)

/-- The first match does not stand alone and hides one that overlaps it. -/
theorem isLeast_findWordByte_overlapping :
    let word := "äbä".toList
    let t := "äbäbä äbä".toList
    (∀ c ∈ word, isIdentChar c = true) ∧ word ≠ [] ∧ matchPlaces word 0 t = [0, 6] ∧
      word <+: t.drop 2 ∧ IsLeast {b | IsWordAtByte word t b} 9 := by
  intro word t
  have hw : ∀ c ∈ word, isIdentChar c = true := List.all_eq_true.mp (by decide +kernel)
  have hne : word ≠ [] := by decide
  have hfound : findWordByte word t = some 9 := by decide +kernel
  exact ⟨hw, hne, by decide +kernel, by decide,
    ((isLeast_findWordByte hw hne t).2.1 9).mp hfound⟩

end CaseFill.Text
