import CaseFill.Text.Column

/-! A line in its document, and the columns of a line. Main statement: a document
is the lines before one of its lines with their breaks, that line, and the rest. -/
namespace CaseFill.Text

/-- The text consists of `n` whole lines, each ended by its line feed. -/
def IsLines (n : Nat) (t : Text) : Prop :=
  t.count '\n' = n ∧ ∀ c, t.getLast? = some c → c = '\n'

theorem isLines_nil : IsLines 0 [] := by simp [IsLines]

theorem IsLines.eq_nil {t : Text} (h : IsLines 0 t) : t = [] := by
  obtain ⟨hc, hl⟩ := h
  cases hlast : t.getLast? with
  | none => simpa using hlast
  | some c =>
    have hm : '\n' ∈ t := hl c hlast ▸ List.mem_of_getLast? hlast
    exact absurd hm (List.count_eq_zero.mp hc)

theorem IsLines.cons_newline {n : Nat} {t : Text} (h : IsLines n t) :
    IsLines (n + 1) ('\n' :: t) := by
  obtain ⟨hc, hl⟩ := h
  refine ⟨by simp [hc], ?_⟩
  intro c hlast
  cases t with
  | nil => simpa using hlast.symm
  | cons d ds => exact hl c (by simpa [List.getLast?_cons_cons] using hlast)

theorem IsLines.cons {n : Nat} {t : Text} {d : Char} (h : IsLines (n + 1) t) (hd : d ≠ '\n') :
    IsLines (n + 1) (d :: t) := by
  obtain ⟨hc, hl⟩ := h
  refine ⟨by simp [hd, hc], ?_⟩
  intro c hlast
  cases t with
  | nil => simp at hc
  | cons e es => exact hl c (by simpa [List.getLast?_cons_cons] using hlast)

theorem IsLines.append_line {n : Nat} {t x : Text} (h : IsLines n t) (hx : '\n' ∉ x) :
    IsLines (n + 1) (t ++ x ++ ['\n']) := by
  refine ⟨?_, ?_⟩
  · have hxc : x.count '\n' = 0 := List.count_eq_zero.mpr hx
    simp [List.count_append, h.1, hxc]
  · intro c hlast
    simpa using hlast.symm

theorem lines_eq_nil_iff {t : Text} : lines t = [] ↔ t = [] := by
  fun_cases lines t with
  | case4 c cs =>
    cases h : lines cs <;> simp [prepend]
  | _ => simp

theorem lines_eq_singleton {t : Text} (hne : t ≠ []) (h : '\n' ∉ t) : lines t = [t] := by
  fun_induction lines t with
  | case1 => exact absurd rfl hne
  | case2 cs => simp at h
  | case3 cs => simp at h
  | case4 c cs _ _ ih =>
    cases cs with
    | nil => rfl
    | cons d ds =>
      have hrest := ih (List.cons_ne_nil d ds) fun hin => h (List.mem_cons_of_mem c hin)
      rw [hrest]
      rfl

theorem lines_cons_of_not_break {c : Char} {cs : Text} (hfeed : c ≠ '\n')
    (hbreak : c = '\r' → cs.head? ≠ some '\n') : lines (c :: cs) = prepend c (lines cs) := by
  rw [lines]
  · exact hfeed
  · rintro rest hc rfl
    exact hbreak hc rfl

inductive FeedAppended : List Text → List Text → Prop where
  | same (lines : List Text) : FeedAppended lines lines
  | emptyLine (lines : List Text) : FeedAppended lines (lines ++ [[]])
  /-- A carriage return at the end becomes part of the break. -/
  | joinedReturn (others : List Text) (last : Text) :
      FeedAppended (others ++ [last ++ ['\r']]) (others ++ [last])

namespace FeedAppended
variable {before after : List Text}

theorem cons (h : FeedAppended before after) (first : Text) :
    FeedAppended (first :: before) (first :: after) := by
  cases h with
  | same => exact .same _
  | emptyLine => exact .emptyLine _
  | joinedReturn others last => exact .joinedReturn (first :: others) last

theorem prepend (h : FeedAppended before after) (hne : before ≠ []) (c : Char) :
    FeedAppended (prepend c before) (prepend c after) := by
  cases h with
  | same => exact .same _
  | emptyLine =>
    cases before with
    | nil => exact absurd rfl hne
    | cons first others => exact .emptyLine ((c :: first) :: others)
  | joinedReturn others last =>
    cases others with
    | nil => exact .joinedReturn [] (c :: last)
    | cons first others => exact .joinedReturn ((c :: first) :: others) last

end FeedAppended

theorem feedAppended_lines (t : Text) : FeedAppended (lines t) (lines (t ++ ['\n'])) := by
  fun_induction lines t with
  | case1 => exact .emptyLine []
  | case2 cs ih =>
    rw [List.cons_append, lines]
    exact ih.cons []
  | case3 cs ih =>
    rw [List.cons_append, List.cons_append, lines]
    exact ih.cons []
  | case4 c cs hfeed hbreak ih =>
    cases cs with
    | nil =>
      by_cases hc : c = '\r'
      · subst hc
        exact .joinedReturn [] []
      · rw [List.singleton_append, lines_cons_of_not_break hfeed fun h => absurd h hc]
        exact .same _
    | cons d ds =>
      have hnot : c = '\r' → (d :: ds ++ ['\n']).head? ≠ some '\n' := by
        intro hc hd
        obtain rfl : d = '\n' := by simpa using hd
        exact hbreak ds hc rfl
      have hne : lines (d :: ds) ≠ [] := fun h => by cases lines_eq_nil_iff.mp h
      rw [List.cons_append, lines_cons_of_not_break hfeed hnot]
      exact ih.prepend hne c

theorem exists_cut_of_line? {t line : Text} {n : Nat} (h : line? t n = some line) :
    ∃ before after, t = before ++ line ++ after ∧ IsLines n before ∧ '\n' ∉ line := by
  unfold line? at h
  fun_induction lines t generalizing n line with
  | case1 => simp at h
  | case2 cs ih =>
    cases n with
    | zero =>
      cases h
      exact ⟨[], '\n' :: cs, rfl, isLines_nil, by simp⟩
    | succ n =>
      obtain ⟨before, after, rfl, hb, hl⟩ := ih h
      exact ⟨'\n' :: before, after, rfl, hb.cons_newline, hl⟩
  | case3 cs ih =>
    cases n with
    | zero =>
      cases h
      exact ⟨[], '\r' :: '\n' :: cs, rfl, isLines_nil, by simp⟩
    | succ n =>
      obtain ⟨before, after, rfl, hb, hl⟩ := ih h
      exact ⟨'\r' :: '\n' :: before, after, rfl, hb.cons_newline.cons (by decide), hl⟩
  | case4 c cs hc _ ih =>
    have hne : c ≠ '\n' := fun he => hc he
    cases hlines : lines cs with
    | nil =>
      -- Only the last line of a text has nothing after it.
      obtain rfl := lines_eq_nil_iff.mp hlines
      cases n with
      | zero =>
        cases h
        exact ⟨[], [], rfl, isLines_nil, by simpa using hne.symm⟩
      | succ n => simp [hlines, prepend] at h
    | cons first others =>
      rw [hlines] at h ih
      cases n with
      | zero =>
        cases h
        obtain ⟨before, after, hcs, hb, hl⟩ := ih (n := 0) rfl
        obtain rfl := hb.eq_nil
        exact ⟨[], after, by simp [hcs], isLines_nil, by simp [hne.symm, hl]⟩
      | succ n =>
        obtain ⟨before, after, rfl, hb, hl⟩ := ih (n := n + 1) h
        exact ⟨c :: before, after, rfl, hb.cons hne, hl⟩

theorem exists_width_cons (c : Char) (cs : Text) :
    ∃ n, width (c :: cs) = n + 1 ∧ n + 1 - units c = width cs := by
  obtain ⟨u, hu⟩ := Nat.exists_eq_add_one.mpr (units_pos c)
  refine ⟨u + width cs, ?_, ?_⟩
  · rw [width, hu]
    omega
  · omega

theorem splitAtColumn_width (x y : Text) : splitAtColumn (x ++ y) (width x) = some (x, y) := by
  induction x with
  | nil => cases y <;> rfl
  | cons c cs ih =>
    obtain ⟨n, hwidth, hrest⟩ := exists_width_cons c cs
    rw [hwidth, List.cons_append, splitAtColumn, hrest, ih]
    rfl

end CaseFill.Text
