import CaseFill.Text.Search
import Mathlib.Data.List.TakeWhile

/-! What a search finds. Main statement: an identifier is found exactly when it
stands somewhere as a whole word. -/
namespace CaseFill.Text

theorem getElem?_of_find?_singleton {c : Char} {t : Text} {i : Nat} (h : find? [c] t = some i) :
    t[i]? = some c := by
  induction t generalizing i with
  | nil => simp [find?] at h
  | cons d ds ih =>
    rw [find?] at h
    split at h
    · next hp =>
      cases h
      simp only [List.isPrefixOf, Bool.and_true, beq_iff_eq] at hp
      simp [hp]
    · obtain ⟨j, hj, rfl⟩ := Option.map_eq_some_iff.mp h
      simpa using ih hj

theorem find?_singleton_eq_some_iff {c : Char} {t : Text} {i : Nat} :
    find? [c] t = some i ↔ ∃ before after, t = before ++ c :: after ∧ c ∉ before ∧
      before.length = i := by
  induction t generalizing i with
  | nil => simp [find?]
  | cons d ds ih =>
    rw [find?]
    by_cases hd : c = d
    · subst hd
      simp only [List.isPrefixOf, beq_self_eq_true, Bool.and_self, if_true, Option.some.injEq]
      constructor
      · rintro rfl
        exact ⟨[], ds, rfl, by simp, rfl⟩
      · rintro ⟨before, after, hsplit, hnot, rfl⟩
        cases before with
        | nil => rfl
        | cons e before =>
          obtain ⟨rfl, -⟩ := List.cons.inj hsplit
          simp at hnot
    · have hstart : [c].isPrefixOf (d :: ds) = false := by simp [List.isPrefixOf, hd]
      rw [hstart, if_neg (by decide), Option.map_eq_some_iff]
      constructor
      · rintro ⟨j, hj, rfl⟩
        obtain ⟨before, after, rfl, hnot, rfl⟩ := ih.mp hj
        exact ⟨d :: before, after, rfl, by simp [hd, hnot], rfl⟩
      · rintro ⟨before, after, hsplit, hnot, rfl⟩
        cases before with
        | nil =>
          obtain ⟨rfl, -⟩ := List.cons.inj hsplit
          exact absurd rfl hd
        | cons e before =>
          obtain ⟨rfl, rfl⟩ := List.cons.inj hsplit
          simp only [List.mem_cons, not_or] at hnot
          exact ⟨before.length, ih.mpr ⟨before, after, rfl, hnot.2, rfl⟩, rfl⟩

theorem find?_singleton_eq_none_iff {c : Char} {t : Text} : find? [c] t = none ↔ c ∉ t := by
  constructor
  · intro h hin
    obtain ⟨before, after, ht, hnot⟩ := List.eq_append_cons_of_mem hin
    have hsome := find?_singleton_eq_some_iff.mpr ⟨before, after, ht, hnot, rfl⟩
    rw [h] at hsome
    cases hsome
  · intro hnot
    cases h : find? [c] t with
    | none => rfl
    | some i =>
      obtain ⟨before, after, rfl, -, -⟩ := find?_singleton_eq_some_iff.mp h
      simp at hnot

def upTo (c : Char) (t : Text) : Text := t.takeWhile (· ≠ c)

theorem notMem_upTo (c : Char) (t : Text) : c ∉ upTo c t := by
  intro hin
  simpa using List.mem_takeWhile_imp hin

theorem upTo_append {c : Char} {s : Text} (t : Text) (h : c ∉ s) : upTo c (s ++ t) = s ++ upTo c t := by
  refine List.takeWhile_append_of_pos ?_
  intro d hd
  exact decide_eq_true fun he => h (he ▸ hd)

theorem upTo_cons_self (c : Char) (t : Text) : upTo c (c :: t) = [] :=
  List.takeWhile_cons_of_neg (by simp)

theorem upTo_append_cons {c : Char} {s : Text} (t : Text) (h : c ∉ s) :
    upTo c (s ++ c :: t) = s := by
  rw [upTo_append _ h, upTo_cons_self, List.append_nil]

theorem upTo_eq_self {c : Char} {t : Text} (h : c ∉ t) : upTo c t = t := by
  simpa [upTo] using upTo_append [] h

theorem find?_singleton (c : Char) (t : Text) :
    find? [c] t = if c ∈ t then some (upTo c t).length else none := by
  split
  · next hin =>
    obtain ⟨before, after, rfl, hnot⟩ := List.eq_append_cons_of_mem hin
    rw [upTo_append_cons after hnot]
    exact find?_singleton_eq_some_iff.mpr ⟨before, after, rfl, hnot, rfl⟩
  · next hnot => exact find?_singleton_eq_none_iff.mpr hnot

theorem occursIn_iff_infix {needle t : Text} : occursIn needle t = true ↔ needle <:+: t := by
  rw [occursIn]
  induction t with
  | nil =>
    rw [find?]
    split <;> simp_all
  | cons c cs ih =>
    rw [find?, List.infix_cons_iff]
    split
    · next hp => simp [List.isPrefixOf_iff_prefix.mp hp]
    · next hp =>
      rw [List.isPrefixOf_iff_prefix] at hp
      simp [hp, ih]

theorem isPrefixOf_append {word x : Text} (h : word.length ≤ x.length) (u : Text) :
    word.isPrefixOf (x ++ u) = word.isPrefixOf x := by
  rw [Bool.eq_iff_iff, List.isPrefixOf_iff_prefix, List.isPrefixOf_iff_prefix,
    List.prefix_iff_eq_take, List.prefix_iff_eq_take, List.take_append_of_le_length h]

theorem exists_split_of_find? {needle t : Text} {i : Nat} (h : find? needle t = some i) :
    ∃ before after, t = before ++ needle ++ after ∧ before.length = i := by
  induction t generalizing i with
  | nil =>
    rw [find?] at h
    split at h
    · next hnil =>
      cases h
      exact ⟨[], [], by simp [hnil], rfl⟩
    · cases h
  | cons c cs ih =>
    rw [find?] at h
    split at h
    · next hprefix =>
      cases h
      obtain ⟨after, hafter⟩ := List.isPrefixOf_iff_prefix.mp hprefix
      exact ⟨[], after, hafter.symm, rfl⟩
    · obtain ⟨j, hj, rfl⟩ := Option.map_eq_some_iff.mp h
      obtain ⟨before, after, rfl, rfl⟩ := ih hj
      exact ⟨c :: before, after, rfl, rfl⟩

theorem prefix_of_find? {needle t : Text} {i : Nat} (h : find? needle t = some i) :
    needle <+: t.drop i := by
  obtain ⟨before, after, rfl, rfl⟩ := exists_split_of_find? h
  simp

theorem find?_append {needle t : Text} {i : Nat} (h : find? needle t = some i) (u : Text) :
    find? needle (t ++ u) = some i := by
  induction t generalizing i with
  | nil =>
    rw [find?] at h
    split at h
    · next hnil =>
      cases h
      subst hnil
      cases u <;> rfl
    · cases h
  | cons c cs ih =>
    rw [find?] at h
    rw [List.cons_append, find?]
    split at h
    · next hprefix =>
      cases h
      have hlonger : needle.isPrefixOf (c :: (cs ++ u)) = true := by
        rw [List.isPrefixOf_iff_prefix] at hprefix ⊢
        exact hprefix.trans (List.prefix_append (c :: cs) u)
      rw [if_pos hlonger]
    · next hprefix =>
      obtain ⟨j, hj, rfl⟩ := Option.map_eq_some_iff.mp h
      -- a match that begins here and ends in `u` would be in front of the one that is found
      have hshort : needle.length ≤ (c :: cs).length := by
        obtain ⟨before, after, rfl, -⟩ := exists_split_of_find? hj
        simp only [List.length_cons, List.length_append]
        omega
      rw [← List.cons_append, isPrefixOf_append hshort, if_neg hprefix, ih hj]
      rfl

theorem find?_self_append (needle t : Text) : find? needle (needle ++ t) = some 0 := by
  cases h : needle ++ t with
  | nil => simp [find?, (List.append_eq_nil_iff.mp h).1]
  | cons c cs =>
    have hprefix : needle.isPrefixOf (c :: cs) = true := by
      rw [List.isPrefixOf_iff_prefix, ← h]
      exact List.prefix_append needle t
    rw [find?, if_pos hprefix]

theorem le_of_find? {needle before after : Text} {i : Nat}
    (h : find? needle (before ++ needle ++ after) = some i) : i ≤ before.length := by
  induction before generalizing i with
  | nil =>
    rw [List.nil_append, find?_self_append] at h
    cases h
    exact Nat.le_refl 0
  | cons c before ih =>
    rw [List.cons_append, List.cons_append, find?] at h
    split at h
    · cases h
      exact Nat.zero_le _
    · obtain ⟨j, hj, rfl⟩ := Option.map_eq_some_iff.mp h
      exact Nat.succ_le_succ (ih hj)

/-- A search passes over a part without a match up to a character that no match has. -/
theorem find?_append_cons {needle t : Text} {c : Char} (hne : needle ≠ []) (hc : c ∉ needle)
    (ht : ¬needle <:+: t) (u : Text) :
    find? needle (t ++ c :: u) = (find? needle u).map (· + (t.length + 1)) := by
  induction t with
  | nil =>
    have hprefix : ¬needle.isPrefixOf (c :: u) = true := by
      rw [List.isPrefixOf_iff_prefix]
      intro hp
      obtain ⟨d, ds, rfl⟩ := List.exists_cons_of_ne_nil hne
      obtain ⟨rfl, -⟩ := List.cons_prefix_cons.mp hp
      exact hc List.mem_cons_self
    rw [List.nil_append, find?, if_neg hprefix, List.length_nil]
  | cons d ds ih =>
    have hprefix : ¬needle.isPrefixOf (d :: ds ++ c :: u) = true := by
      rw [List.isPrefixOf_iff_prefix]
      intro hp
      have hshared : d :: ds ++ [c] <+: d :: ds ++ c :: u := ⟨u, by simp⟩
      rcases List.prefix_or_prefix_of_prefix hp hshared with hin | hout
      · rcases List.prefix_concat_iff.mp hin with rfl | hin
        · simp at hc
        · exact ht hin.isInfix
      · exact hc (hout.subset (by simp))
    rw [List.cons_append] at hprefix ⊢
    rw [find?, if_neg hprefix, ih fun hin => ht (List.infix_cons hin), Option.map_map]
    rfl

/-- The word stands at place `i` of a text with no identifier character next to
it; `before` is the character in front of the text. -/
def IsWordAt (word : Text) (before : Option Char) (t : Text) (i : Nat) : Prop :=
  ∃ left right, t = left ++ word ++ right ∧ left.length = i ∧
    isEdge (left.getLast?.or before) = true ∧ isEdge right.head? = true

def HasWord (word t : Text) : Prop := ∃ i, IsWordAt word none t i

theorem isWordAt_zero {word t : Text} {before : Option Char} :
    IsWordAt word before t 0 ↔
      ∃ right, t = word ++ right ∧ isEdge before = true ∧ isEdge right.head? = true := by
  constructor
  · rintro ⟨left, right, ht, hleft, hbefore, hright⟩
    obtain rfl := List.length_eq_zero_iff.mp hleft
    exact ⟨right, ht, hbefore, hright⟩
  · rintro ⟨right, ht, hbefore, hright⟩
    exact ⟨[], right, ht, rfl, hbefore, hright⟩

theorem getLast?_cons_or (c : Char) (t : Text) (before : Option Char) :
    (c :: t).getLast?.or before = t.getLast?.or (some c) := by
  rw [List.getLast?_cons]
  cases t.getLast? <;> rfl

theorem isWordAt_cons_succ {word cs : Text} {before : Option Char} {c : Char} {i : Nat} :
    IsWordAt word before (c :: cs) (i + 1) ↔ IsWordAt word (some c) cs i := by
  constructor
  · rintro ⟨left, right, ht, hleft, hbefore, hright⟩
    cases left with
    | nil => cases hleft
    | cons d left =>
      obtain ⟨rfl, hcs⟩ := List.cons.inj ht
      rw [getLast?_cons_or] at hbefore
      exact ⟨left, right, hcs, Nat.succ.inj hleft, hbefore, hright⟩
  · rintro ⟨left, right, ht, hleft, hbefore, hright⟩
    refine ⟨c :: left, right, ?_, ?_, ?_, hright⟩
    · rw [ht]
      rfl
    · rw [List.length_cons, hleft]
    · rw [getLast?_cons_or]
      exact hbefore

theorem isWordAt_of_findWordFrom {word : Text} {skip : Nat} {before : Option Char} {t : Text}
    {i : Nat} (h : findWordFrom word skip before t = some i) : IsWordAt word before t i := by
  fun_induction findWordFrom word skip before t generalizing i with
  | case1 => simp at h
  | case2 skip before c cs ih =>
    obtain ⟨j, hj, rfl⟩ := Option.map_eq_some_iff.mp h
    exact isWordAt_cons_succ.mpr (ih hj)
  | case3 before c cs hp hedges =>
    cases h
    obtain ⟨right, hright⟩ := List.isPrefixOf_iff_prefix.mp hp
    rw [Bool.and_eq_true, ← hright, List.drop_left] at hedges
    exact isWordAt_zero.mpr ⟨right, hright.symm, hedges⟩
  | case4 before c cs hp _ ih =>
    obtain ⟨j, hj, rfl⟩ := Option.map_eq_some_iff.mp h
    exact isWordAt_cons_succ.mpr (ih hj)
  | case5 before c cs hp ih =>
    obtain ⟨j, hj, rfl⟩ := Option.map_eq_some_iff.mp h
    exact isWordAt_cons_succ.mpr (ih hj)

/-- The places that a search skips are places inside a word, and so is the one
before them. -/
def Covered (skip : Nat) (before : Option Char) (t : Text) : Prop :=
  0 < skip → isEdge before = false ∧ ∀ c ∈ t.take skip, isIdentChar c = true

theorem covered_behind_word {word cs : Text} {c : Char} (hw : ∀ d ∈ word, isIdentChar d = true)
    (hne : word ≠ []) (h : word <+: c :: cs) : Covered (word.length - 1) (some c) cs := by
  intro _
  cases word with
  | nil => exact absurd rfl hne
  | cons d ds =>
    obtain ⟨rfl, hds⟩ := List.cons_prefix_cons.mp h
    have hd : isIdentChar d = true := hw d List.mem_cons_self
    refine ⟨by simp [isEdge, hd], ?_⟩
    intro e he
    have htake : cs.take ((d :: ds).length - 1) = ds := (List.prefix_iff_eq_take.mp hds).symm
    rw [htake] at he
    exact hw e (List.mem_cons_of_mem _ he)

/-- A search for an identifier finds the first place where it stands alone: what
it skips after a match is inside that match, where no word begins. -/
theorem exists_findWordFrom_le {word : Text} (hw : ∀ c ∈ word, isIdentChar c = true)
    (hne : word ≠ []) {skip : Nat} {before : Option Char} {t : Text} {j : Nat}
    (hskip : Covered skip before t) (h : IsWordAt word before t j) :
    ∃ i ≤ j, findWordFrom word skip before t = some i := by
  fun_induction findWordFrom word skip before t generalizing j with
  | case1 =>
    obtain ⟨left, right, ht, -⟩ := h
    simp [hne] at ht
  | case2 skip before c cs ih =>
    -- an identifier character stands before a skipped place, so no word begins there
    obtain ⟨hbefore, htake⟩ := hskip (Nat.succ_pos _)
    cases j with
    | zero =>
      obtain ⟨right, -, hedge, -⟩ := isWordAt_zero.mp h
      simp [hbefore] at hedge
    | succ j =>
      have hc : isIdentChar c = true := htake c (by simp)
      have hcovered : Covered skip (some c) cs := by
        intro _
        exact ⟨by simp [isEdge, hc], fun d hd => htake d (by simp [hd])⟩
      obtain ⟨i, hij, hi⟩ := ih hcovered (isWordAt_cons_succ.mp h)
      exact ⟨i + 1, by omega, by simp [hi]⟩
  | case3 before c cs hp hedges => exact ⟨0, Nat.zero_le _, rfl⟩
  | case4 before c cs hp hedges ih =>
    cases j with
    | zero =>
      obtain ⟨right, ht, hbefore, hright⟩ := isWordAt_zero.mp h
      simp [ht, hbefore, hright] at hedges
    | succ j =>
      have hprefix := List.isPrefixOf_iff_prefix.mp hp
      obtain ⟨i, hij, hi⟩ := ih (covered_behind_word hw hne hprefix) (isWordAt_cons_succ.mp h)
      exact ⟨i + 1, by omega, by simp [hi]⟩
  | case5 before c cs hp ih =>
    cases j with
    | zero =>
      obtain ⟨right, ht, -⟩ := isWordAt_zero.mp h
      simp [ht] at hp
    | succ j =>
      have hcovered : Covered 0 (some c) cs := fun hpos => absurd hpos (Nat.lt_irrefl 0)
      obtain ⟨i, hij, hi⟩ := ih hcovered (isWordAt_cons_succ.mp h)
      exact ⟨i + 1, by omega, by simp [hi]⟩

theorem isWordAt_of_findWord {word t : Text} {i : Nat} (h : findWord word t = some i) :
    IsWordAt word none t i := by
  unfold findWord at h
  split at h
  · cases h
  · exact isWordAt_of_findWordFrom h

theorem prefix_of_findWord {word t : Text} {i : Nat} (h : findWord word t = some i) :
    word <+: t.drop i := by
  obtain ⟨left, right, rfl, rfl, -⟩ := isWordAt_of_findWord h
  simp

theorem isSome_findWord_iff {word t : Text} (hw : ∀ c ∈ word, isIdentChar c = true)
    (hne : word ≠ []) : (findWord word t).isSome = true ↔ HasWord word t := by
  rw [findWord, if_neg hne]
  constructor
  · intro h
    obtain ⟨i, hi⟩ := Option.isSome_iff_exists.mp h
    exact ⟨i, isWordAt_of_findWordFrom hi⟩
  · rintro ⟨j, hj⟩
    have hcovered : Covered 0 none t := fun hpos => absurd hpos (Nat.lt_irrefl 0)
    obtain ⟨i, -, hi⟩ := exists_findWordFrom_le hw hne hcovered hj
    rw [hi]
    rfl

theorem le_of_findWord {word t : Text} {i j : Nat} (hw : ∀ c ∈ word, isIdentChar c = true)
    (h : findWord word t = some i) (hj : IsWordAt word none t j) : i ≤ j := by
  unfold findWord at h
  split at h
  · cases h
  · next hne =>
    have hcovered : Covered 0 none t := fun hpos => absurd hpos (Nat.lt_irrefl 0)
    obtain ⟨k, hkj, hk⟩ := exists_findWordFrom_le hw hne hcovered hj
    rw [h, Option.some.injEq] at hk
    omega

theorem isEdge_or {a b : Option Char} (ha : isEdge a = true) (hb : isEdge b = true) :
    isEdge (a.or b) = true := by
  cases a with
  | none => exact hb
  | some c => exact ha

theorem IsWordAt.append {word t : Text} {before : Option Char} {i : Nat}
    (h : IsWordAt word before t i) {u : Text} (hu : isEdge u.head? = true) :
    IsWordAt word before (t ++ u) i := by
  obtain ⟨left, right, rfl, hleft, hbefore, hright⟩ := h
  refine ⟨left, right ++ u, by simp, hleft, hbefore, ?_⟩
  rw [List.head?_append]
  exact isEdge_or hright hu

theorem IsWordAt.end_le {word t : Text} {before : Option Char} {i : Nat}
    (h : IsWordAt word before t i) : i + word.length ≤ t.length := by
  obtain ⟨left, right, rfl, rfl, -⟩ := h
  simp only [List.length_append]
  omega

theorem HasWord.of_append {left word right t : Text} (h : HasWord (left ++ word ++ right) t)
    (hleft : isEdge left.getLast? = true) (hright : isEdge right.head? = true) :
    HasWord word t := by
  obtain ⟨_, front, rest, rfl, -, hfront, hrest⟩ := h
  refine ⟨_, front ++ left, right ++ rest, by simp, rfl, ?_, ?_⟩
  · rw [List.getLast?_append, Option.or_none]
    rw [Option.or_none] at hfront
    exact isEdge_or hleft hfront
  · rw [List.head?_append]
    exact isEdge_or hright hrest

theorem head?_drop_append {x : Text} {n : Nat} (h : n < x.length) (u : Text) :
    ((x ++ u).drop n).head? = (x.drop n).head? := by
  rw [List.head?_drop, List.head?_drop, List.getElem?_append_left h]

/-- What a search does at a place depends on no more than one character behind the word
that could begin there. -/
theorem findWordFrom_of_front {word front s t : Text} {skip : Nat} {before : Option Char}
    (hne : word ≠ []) (hedge : isEdge t.head? = true)
    (h : findWordFrom word skip before (front ++ word ++ s) = some front.length) :
    findWordFrom word skip before (front ++ word ++ t) = some front.length := by
  induction front generalizing skip before with
  | nil =>
    obtain ⟨c, cs, rfl⟩ := List.exists_cons_of_ne_nil hne
    cases skip with
    | zero =>
      obtain ⟨_, -, hbefore, -⟩ := isWordAt_zero.mp (isWordAt_of_findWordFrom h)
      have hprefix : (c :: cs).isPrefixOf (c :: (cs ++ t)) = true :=
        List.isPrefixOf_iff_prefix.mpr (List.prefix_append (c :: cs) t)
      rw [List.nil_append, List.cons_append, findWordFrom, if_pos hprefix, ← List.cons_append,
        List.drop_left, hbefore, hedge]
      rfl
    | succ skip =>
      rw [List.nil_append, List.cons_append, findWordFrom, Option.map_eq_some_iff] at h
      obtain ⟨_, -, hzero⟩ := h
      cases hzero
  | cons c front ih =>
    have hstep : ∀ {skip before},
        (findWordFrom word skip before (front ++ word ++ s)).map (· + 1) =
            some (c :: front).length →
          (findWordFrom word skip before (front ++ word ++ t)).map (· + 1) =
            some (c :: front).length := by
      intro skip before hmap
      obtain ⟨i, hi, hlength⟩ := Option.map_eq_some_iff.mp hmap
      obtain rfl : i = front.length := Nat.succ.inj hlength
      rw [ih hi]
      rfl
    cases skip with
    | succ skip =>
      rw [List.cons_append, List.cons_append, findWordFrom] at h ⊢
      exact hstep h
    | zero =>
      -- the word and its right neighbour lie in the part that both texts share
      have hshort : word.length < (c :: (front ++ word)).length := by
        simp only [List.length_cons, List.length_append]
        omega
      simp only [List.cons_append] at h ⊢
      rw [findWordFrom, ← List.cons_append, isPrefixOf_append hshort.le,
        head?_drop_append hshort] at h ⊢
      split at h
      · next hprefix =>
        rw [if_pos hprefix]
        split at h
        · cases h
        · next hedges =>
          rw [if_neg hedges]
          exact hstep h
      · next hprefix =>
        rw [if_neg hprefix]
        exact hstep h

theorem findWord_of_front {word front s t : Text} (hedge : isEdge t.head? = true)
    (h : findWord word (front ++ word ++ s) = some front.length) :
    findWord word (front ++ word ++ t) = some front.length := by
  unfold findWord at h ⊢
  split at h
  · cases h
  · next hne =>
    rw [if_neg hne]
    exact findWordFrom_of_front hne hedge h

end CaseFill.Text
