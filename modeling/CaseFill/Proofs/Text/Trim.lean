import CaseFill.Text.Blank
import Mathlib.Data.List.DropRight

/-! Texts without the marks or the blanks around them. Main statements: a text is what is
left of it with the marks put back around, what has no mark at either end is left as it is,
and so to trim a trimmed text changes nothing. -/
namespace CaseFill.Text

section
variable {p : Char → Bool}

theorem exists_stripBoth (t : Text) :
    ∃ left right, t = left ++ stripBoth p t ++ right ∧ (∀ c ∈ left, p c = true) ∧
      ∀ c ∈ right, p c = true := by
  refine ⟨t.takeWhile p, (t.dropWhile p).rtakeWhile p, ?_, ?_, ?_⟩
  · have hright : stripBoth p t ++ (t.dropWhile p).rtakeWhile p = t.dropWhile p :=
      List.rdropWhile_append_rtakeWhile
    rw [List.append_assoc, hright, List.takeWhile_append_dropWhile]
  · intro c hc
    exact List.mem_takeWhile_imp hc
  · intro c hc
    exact List.mem_rtakeWhile_imp hc

theorem dropWhile_eq_self {t : Text} (h : ∀ c, t.head? = some c → p c = false) :
    t.dropWhile p = t := by
  cases t with
  | nil => rfl
  | cons c cs => exact List.dropWhile_cons_of_neg (by simp [h c rfl])

theorem dropEndWhile_append {s : Text} (h : ∀ c, s.getLast? = some c → p c = false) (t : Text) :
    dropEndWhile p (s ++ t) = s ++ dropEndWhile p t := by
  have hs : s.reverse.dropWhile p = s.reverse := by
    refine dropWhile_eq_self ?_
    intro c hc
    rw [List.head?_reverse] at hc
    exact h c hc
  rw [dropEndWhile, dropEndWhile, List.reverse_append, List.dropWhile_append, hs]
  split
  · next hempty => simp [List.isEmpty_iff.mp hempty]
  · simp

theorem dropEndWhile_eq_nil {t : Text} (h : ∀ c ∈ t, p c = true) : dropEndWhile p t = [] :=
  List.rdropWhile_eq_nil_iff.mpr h

/-- The marks around a text go, and nothing else. -/
theorem stripBoth_append {left core right : Text} (hleft : ∀ c ∈ left, p c = true)
    (hright : ∀ c ∈ right, p c = true) (hfirst : ∀ c, core.head? = some c → p c = false)
    (hlast : ∀ c, core.getLast? = some c → p c = false) :
    stripBoth p (left ++ core ++ right) = core := by
  rw [stripBoth, List.append_assoc, List.dropWhile_append_of_pos hleft]
  cases hcore : core with
  | nil =>
    have hdrop : right.dropWhile p = [] := List.dropWhile_eq_nil_iff.mpr hright
    rw [List.nil_append, hdrop]
    rfl
  | cons c cs =>
    have hkept : (c :: cs ++ right).dropWhile p = c :: cs ++ right := by
      refine dropWhile_eq_self ?_
      intro d hd
      exact hfirst d (hcore ▸ hd)
    rw [hkept, dropEndWhile_append (hcore ▸ hlast), dropEndWhile_eq_nil hright, List.append_nil]

theorem stripBoth_eq_self {t : Text} (hfirst : ∀ c, t.head? = some c → p c = false)
    (hlast : ∀ c, t.getLast? = some c → p c = false) : stripBoth p t = t := by
  have h : stripBoth p ([] ++ t ++ []) = t :=
    stripBoth_append (by simp) (by simp) hfirst hlast
  rwa [List.nil_append, List.append_nil] at h

theorem not_of_head?_stripBoth {t : Text} {c : Char} (h : (stripBoth p t).head? = some c) :
    p c = false := by
  have hprefix : stripBoth p t <+: t.dropWhile p := List.rdropWhile_prefix p _
  have hhead : (t.dropWhile p).head? = some c := by
    obtain ⟨more, hmore⟩ := hprefix
    rw [← hmore, List.head?_append, h]
    rfl
  have hnot := List.head?_dropWhile_not p t
  rw [hhead] at hnot
  simpa using hnot

theorem not_of_getLast?_stripBoth {t : Text} {c : Char}
    (h : (stripBoth p t).getLast? = some c) : p c = false := by
  rw [stripBoth, dropEndWhile, List.getLast?_reverse] at h
  have hnot := List.head?_dropWhile_not p (t.dropWhile p).reverse
  rw [h] at hnot
  simpa using hnot

end

theorem trimEnd_prefix (t : Text) : trimEnd t <+: t := List.rdropWhile_prefix isBlank t

theorem prefix_trimEnd {x : Text} {c : Char} (hc : isBlank c = false) (y : Text) :
    x ++ [c] <+: trimEnd (x ++ [c] ++ y) := by
  have hlast : ∀ d, (x ++ [c]).getLast? = some d → isBlank d = false := by
    intro d hd
    rw [List.getLast?_concat, Option.some.injEq] at hd
    rwa [← hd]
  rw [trimEnd, dropEndWhile_append hlast]
  exact List.prefix_append ..

theorem mem_of_mem_trim {t : Text} {c : Char} (h : c ∈ trim t) : c ∈ t := by
  obtain ⟨left, right, ht, -, -⟩ := exists_stripBoth (p := isBlank) t
  rw [ht]
  exact List.mem_append_left right (List.mem_append_right left h)

theorem trim_trim (t : Text) : trim (trim t) = trim t :=
  stripBoth_eq_self (fun _ => not_of_head?_stripBoth) fun _ => not_of_getLast?_stripBoth

theorem trim_eq_nil_iff {t : Text} : trim t = [] ↔ ∀ c ∈ t, isBlank c = true := by
  constructor
  · intro h
    obtain ⟨left, right, ht, hleft, hright⟩ := exists_stripBoth (p := isBlank) t
    rw [← trim, h, List.append_nil] at ht
    rw [ht]
    exact List.forall_mem_append.mpr ⟨hleft, hright⟩
  · intro hall
    rw [trim, stripBoth, List.dropWhile_eq_nil_iff.mpr hall]
    rfl

theorem trim_eq_self {t : Text} (h : ∀ c ∈ t, isBlank c = false) : trim t = t :=
  stripBoth_eq_self (fun c hc => h c (List.mem_of_head? hc)) fun c hc =>
    h c (List.mem_of_getLast? hc)

theorem trim_concat {b : Char} (hb : isBlank b = true) (t : Text) :
    trim (t ++ [b]) = trim t := by
  rw [trim, stripBoth, List.dropWhile_append]
  split
  · next hall =>
    rw [trim, stripBoth, List.isEmpty_iff.mp hall, List.dropWhile_cons_of_pos hb]
    rfl
  · exact List.rdropWhile_concat_pos isBlank _ b hb

end CaseFill.Text
