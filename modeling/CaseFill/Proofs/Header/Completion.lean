import CaseFill.Proofs.Header

/-! The header line behind its keyword, and what it is completed to. The line is cut at the
places of the parentheses that it lacks and at the end of the condition, which is its first
opening brace or the end of the line. Main statements: these places follow one another; and
a text that is completed there has each parenthesis in front of the brace, or else had it
behind the brace only. -/
namespace CaseFill

namespace Text

def between (t : Text) (i j : Nat) : Text := (t.take j).drop i

theorem take_append_between (t : Text) {i j : Nat} (hij : i ≤ j) :
    t.take i ++ between t i j = t.take j := by
  have h := List.take_append_drop i (t.take j)
  rwa [List.take_take, Nat.min_eq_left hij] at h

theorem between_append_between (t : Text) {i j k : Nat} (hij : i ≤ j) (hjk : j ≤ k) :
    between t i j ++ between t j k = between t i k := by
  have hboth : t.take i ++ (between t i j ++ between t j k) = t.take i ++ between t i k := by
    rw [← List.append_assoc, take_append_between t hij, take_append_between t hjk,
      take_append_between t (hij.trans hjk)]
  exact List.append_cancel_left hboth

theorem between_self (t : Text) (i : Nat) : between t i i = [] := by
  rw [between, List.drop_eq_nil_iff]
  exact List.length_take_le ..

theorem between_eq_cons {t : Text} {i j : Nat} {c : Char} (hij : i < j) (h : t[i]? = some c) :
    between t i j = c :: between t (i + 1) j := by
  have hget : (t.take j)[i]? = some c := by rw [List.getElem?_take_of_lt hij, h]
  obtain ⟨hlt, hc⟩ := List.getElem?_eq_some_iff.mp hget
  rw [between, List.drop_eq_getElem_cons hlt, hc, between]

def lacking (c : Char) (t : Text) : Text := if c ∈ t then [] else [c]

theorem mem_lacking {c d : Char} {t : Text} : d ∈ lacking c t ↔ d = c ∧ c ∉ t := by
  unfold lacking
  split
  · next hin => simp [hin]
  · next hnot => simp [hnot]

theorem notMem_lacking {c d : Char} (h : d ≠ c) (t : Text) : d ∉ lacking c t := by
  intro hin
  exact h (mem_lacking.mp hin).1

theorem count_lacking (c d : Char) (t : Text) :
    (lacking c t).count d = if d = c ∧ d ∉ t then 1 else 0 := by
  unfold lacking
  by_cases hd : d = c
  · subst hd
    by_cases hin : d ∈ t <;> simp [hin]
  · by_cases hin : c ∈ t <;> simp [hin, hd, Ne.symm hd]

end Text

namespace Header
variable {line : Text} {keyword : Nat}

def behind (line : Text) (keyword : Nat) : Text := line.drop (keyword + switchKeyword.length)

/-- Place of the first opening brace behind the keyword, or else of the end of the line. -/
def conditionEnd (line : Text) (keyword : Nat) : Nat :=
  keyword + switchKeyword.length + (Text.upTo '\x7b' (behind line keyword)).length

section
variable (hk : Text.findWord switchKeyword line = some keyword)
include hk

theorem drop_keyword : line.drop keyword = switchKeyword ++ behind line keyword := by
  obtain ⟨rest, hrest⟩ := Text.prefix_of_findWord hk
  rw [behind, ← List.drop_drop, ← hrest, List.drop_left]

theorem mem_drop_keyword_iff {c : Char} (hc : c ∉ switchKeyword) :
    c ∈ line.drop keyword ↔ c ∈ behind line keyword := by
  rw [drop_keyword hk, List.mem_append, or_iff_right hc]

theorem length_behind :
    keyword + switchKeyword.length + (behind line keyword).length = line.length := by
  have h := congrArg List.length (drop_keyword hk)
  have hpos : 0 < switchKeyword.length := by decide
  rw [List.length_drop, List.length_append] at h
  omega

theorem findFrom_brace :
    findFrom '\x7b' line keyword =
      if '\x7b' ∈ behind line keyword then some (conditionEnd line keyword) else none := by
  simp only [findFrom, Text.find?_singleton,
    mem_drop_keyword_iff hk (by decide : '\x7b' ∉ switchKeyword)]
  split
  · rw [drop_keyword hk, Text.upTo_append _ (by decide : '\x7b' ∉ switchKeyword),
      Option.map_some, List.length_append, ← Nat.add_assoc, conditionEnd]
  · rfl

theorem conditionEnd_of_notMem (h : '\x7b' ∉ behind line keyword) :
    conditionEnd line keyword = line.length ∧ casesPlace line keyword = line.length := by
  refine ⟨?_, ?_⟩
  · rw [conditionEnd, Text.upTo_eq_self h, length_behind hk]
  · rw [casesPlace, endPlace, findFrom_brace hk, if_neg h, Option.bind_none, Option.getD_none]

theorem conditionEnd_le_cases : conditionEnd line keyword ≤ casesPlace line keyword := by
  by_cases hb : '\x7b' ∈ behind line keyword
  · have hfound := findFrom_brace hk
    rw [if_pos hb] at hfound
    exact (brace_lt_cases hfound).le
  · obtain ⟨hend, hcases⟩ := conditionEnd_of_notMem hk hb
    rw [hend, hcases]

/-- The keyword is no blank, so what is left of a line that is cut behind it still has it. -/
theorem keyword_le_trimEnd {b : Nat} (hb : keyword + switchKeyword.length ≤ b) :
    keyword + switchKeyword.length ≤ (Text.trimEnd (line.take b)).length := by
  have hkeyword : switchKeyword = "switc".toList ++ ['h'] := by decide
  have htake : line.take (keyword + switchKeyword.length) =
      line.take keyword ++ "switc".toList ++ ['h'] := by
    rw [List.take_add, drop_keyword hk, List.take_left, List.append_assoc, ← hkeyword]
  have hline : line.take b = line.take keyword ++ "switc".toList ++ ['h'] ++
      Text.between line (keyword + switchKeyword.length) b := by
    rw [← htake, Text.take_append_between line hb]
  have hprefix := Text.prefix_trimEnd (x := line.take keyword ++ "switc".toList) (c := 'h')
    (by decide) (Text.between line (keyword + switchKeyword.length) b)
  rw [← hline, ← htake] at hprefix
  have hlength := length_behind hk
  have hle := hprefix.length_le
  rw [List.length_take] at hle
  omega

omit hk in
theorem openPlace_bounds {i : Nat} (hi : openPlace line keyword = some i) :
    keyword + switchKeyword.length ≤ i ∧ i ≤ conditionEnd line keyword := by
  have hblanks : blanksAfter line keyword <+: Text.upTo '\x7b' (behind line keyword) := by
    have hbrace : '\x7b' ∉ blanksAfter line keyword := by
      intro hin
      exact absurd (List.mem_takeWhile_imp hin) (by decide)
    obtain ⟨rest, hrest⟩ : blanksAfter line keyword <+: behind line keyword :=
      List.takeWhile_prefix _
    rw [← hrest, Text.upTo_append rest hbrace]
    exact List.prefix_append ..
  have hle := hblanks.length_le
  rw [openPlace] at hi
  split at hi
  · cases hi
  · cases hi
    rw [conditionEnd]
    omega

theorem closePlace_bounds {j : Nat} (hj : closePlace line keyword = some j) :
    keyword + switchKeyword.length ≤ j ∧ j ≤ conditionEnd line keyword := by
  obtain ⟨b, hb, rfl⟩ := exists_brace_of_closePlace hj
  rw [findFrom_brace hk, Option.ite_none_right_eq_some] at hb
  obtain ⟨-, hb⟩ := hb
  obtain rfl := Option.some.inj hb
  have hkeyword := keyword_le_trimEnd hk (b := conditionEnd line keyword) (Nat.le_add_right ..)
  have htrim := (width_trimEnd_take line (conditionEnd line keyword)).2
  cases ho : openPlace line keyword with
  | none => exact ⟨hkeyword, htrim⟩
  | some i =>
    have hi := openPlace_bounds ho
    rw [atLeast]
    omega

end

def leftPlace (line : Text) (keyword : Nat) : Nat :=
  (openPlace line keyword).getD (keyword + switchKeyword.length)

def rightPlace (line : Text) (keyword : Nat) : Nat :=
  (closePlace line keyword).getD (conditionEnd line keyword)

theorem places_ordered (hk : Text.findWord switchKeyword line = some keyword) :
    keyword + switchKeyword.length ≤ leftPlace line keyword ∧
      leftPlace line keyword ≤ rightPlace line keyword ∧
      rightPlace line keyword ≤ conditionEnd line keyword := by
  have hend : keyword + switchKeyword.length ≤ conditionEnd line keyword := Nat.le_add_right ..
  rw [leftPlace, rightPlace]
  cases ho : openPlace line keyword with
  | none =>
    cases hc : closePlace line keyword with
    | none => exact ⟨Nat.le_refl _, hend, Nat.le_refl _⟩
    | some j => exact ⟨Nat.le_refl _, closePlace_bounds hk hc⟩
  | some i =>
    obtain ⟨hki, hie⟩ := openPlace_bounds ho
    cases hc : closePlace line keyword with
    | none => exact ⟨hki, hie, Nat.le_refl _⟩
    | some j =>
      exact ⟨hki, (ordered_of_findWord hk).open_le_close i j ho hc, (closePlace_bounds hk hc).2⟩

/-- Without an opening brace the condition reaches to the end of the line, where the cases
go too. -/
theorem rightPlace_of_notMem (hk : Text.findWord switchKeyword line = some keyword)
    (h : '\x7b' ∉ behind line keyword) :
    rightPlace line keyword = conditionEnd line keyword ∧
      casesPlace line keyword = conditionEnd line keyword := by
  refine ⟨?_, ?_⟩
  · rw [rightPlace, closePlace, findFrom_brace hk, if_neg h, Option.bind_none, Option.getD_none]
  · obtain ⟨hend, hcases⟩ := conditionEnd_of_notMem hk h
    rw [hend, hcases]

theorem upTo_behind (hk : Text.findWord switchKeyword line = some keyword) :
    Text.upTo '\x7b' (behind line keyword) =
      Text.between line (keyword + switchKeyword.length) (leftPlace line keyword) ++
        Text.between line (leftPlace line keyword) (rightPlace line keyword) ++
        Text.between line (rightPlace line keyword) (conditionEnd line keyword) := by
  obtain ⟨hkl, hlr, hre⟩ := places_ordered hk
  have hprefix : Text.upTo '\x7b' (behind line keyword) <+: behind line keyword :=
    List.takeWhile_prefix _
  rw [Text.between_append_between line hkl hlr,
    Text.between_append_between line (hkl.trans hlr) hre, Text.between, List.drop_take,
    conditionEnd, Nat.add_sub_cancel_left]
  exact List.prefix_iff_eq_take.mp hprefix

theorem between_leftPlace (h : '(' ∉ behind line keyword) :
    Text.between line (keyword + switchKeyword.length) (leftPlace line keyword) =
      (behind line keyword).takeWhile Text.isBlank := by
  have hleft : leftPlace line keyword =
      keyword + switchKeyword.length + (blanksAfter line keyword).length := by
    have hcontains : (line.drop (keyword + switchKeyword.length)).contains '(' = false := by
      simpa [behind] using h
    rw [leftPlace, openPlace, hcontains]
    rfl
  have hprefix : blanksAfter line keyword <+: behind line keyword := List.takeWhile_prefix _
  rw [Text.between, List.drop_take, hleft, Nat.add_sub_cancel_left]
  exact (List.prefix_iff_eq_take.mp hprefix).symm

theorem between_subset_behind (line : Text) {i : Nat} (hi : keyword + switchKeyword.length ≤ i)
    (j : Nat) : Text.between line i j ⊆ behind line keyword := by
  have hdrop : line.drop i =
      (behind line keyword).drop (i - (keyword + switchKeyword.length)) := by
    rw [behind, List.drop_drop, Nat.add_sub_cancel' hi]
  rw [Text.between, List.drop_take, hdrop]
  exact fun c hc => List.mem_of_mem_drop (List.mem_of_mem_take hc)

theorem exists_parts_behind {h : Header} (hi : inspect line = some h)
    (hk : Text.findWord switchKeyword line = some keyword) :
    ∃ parts : Parts line h, parts.head = line.take (leftPlace line keyword) ∧
      parts.condition = Text.between line (leftPlace line keyword) (rightPlace line keyword) ∧
      parts.brace = Text.between line (rightPlace line keyword) (casesPlace line keyword) := by
  obtain ⟨-, hlr, hre⟩ := places_ordered hk
  rw [inspect_eq_map, hk, Option.map_some, Option.some.injEq] at hi
  subst hi
  refine ⟨Parts.ofPlaces hlr (hre.trans (conditionEnd_le_cases hk)) ?_ ?_ rfl, rfl, rfl, rfl⟩
  · intro c hc
    obtain ⟨i, hi, rfl⟩ := Option.map_eq_some_iff.mp hc
    rw [leftPlace, hi, Option.getD_some]
  · intro c hc
    obtain ⟨j, hj, rfl⟩ := Option.map_eq_some_iff.mp hc
    rw [rightPlace, hj, Option.getD_some]

/-- The text behind a keyword, before and after what it lacks is put in: parentheses in
front of the first opening brace, and that brace if there is none. -/
structure Completion (rest written : Text) where
  blanks : Text
  condition : Text
  spaces : Text
  gap : Text
  body : Text
  upTo_eq : Text.upTo '\x7b' rest = blanks ++ condition ++ spaces
  written_eq : written = blanks ++ Text.lacking '(' rest ++ condition ++ Text.lacking ')' rest ++
    gap ++ '\x7b' :: body
  blanks_eq : '(' ∉ rest → blanks = rest.takeWhile Text.isBlank
  gap_eq : gap = spaces ∨ spaces = [] ∧ gap = [' ']
  body_subset : body ⊆ rest

/-- The only `c` of the text stands right behind `before`, and so in front of its first
opening brace. -/
def StandsAlone (c : Char) (before t : Text) : Prop :=
  ∃ after, t = before ++ c :: after ∧ c ∉ before ∧ c ∉ after ∧ '\x7b' ∉ before ∧ '\x7b' ∈ after

namespace Completion
variable {rest written : Text} (completion : Completion rest written)
include completion

theorem mem_gap_iff {c : Char} (hc : c ≠ ' ') :
    c ∈ completion.gap ↔ c ∈ completion.spaces := by
  rcases completion.gap_eq with hgap | ⟨hspaces, hgap⟩
  · rw [hgap]
  · simp [hspaces, hgap, hc]

theorem mem_upTo_iff {c : Char} : c ∈ Text.upTo '\x7b' rest ↔
    c ∈ completion.blanks ∨ c ∈ completion.condition ∨ c ∈ completion.spaces := by
  rw [completion.upTo_eq, List.mem_append, List.mem_append, or_assoc]

theorem upTo_written : Text.upTo '\x7b' written =
    completion.blanks ++ Text.lacking '(' rest ++ completion.condition ++
      Text.lacking ')' rest ++ completion.gap := by
  have hnone : '\x7b' ∉ Text.upTo '\x7b' rest := Text.notMem_upTo _ _
  rw [completion.mem_upTo_iff, not_or, not_or,
    ← completion.mem_gap_iff (by decide : '\x7b' ≠ ' ')] at hnone
  have hopen : '\x7b' ∉ Text.lacking '(' rest := Text.notMem_lacking (by decide) rest
  have hclose : '\x7b' ∉ Text.lacking ')' rest := Text.notMem_lacking (by decide) rest
  refine (congrArg (Text.upTo '\x7b') completion.written_eq).trans ?_
  refine Text.upTo_append_cons completion.body ?_
  simp only [List.mem_append, not_or]
  exact ⟨⟨⟨⟨hnone.1, hopen⟩, hnone.2.1⟩, hclose⟩, hnone.2.2⟩

theorem brace_mem : '\x7b' ∈ written := by
  rw [completion.written_eq]
  exact List.mem_append_right _ List.mem_cons_self

/-- In front of the brace stand the parentheses that stood there before, and those that
the text had nowhere. -/
theorem mem_upTo_written_iff {c : Char} (hc : c = '(' ∨ c = ')') :
    c ∈ Text.upTo '\x7b' written ↔ c ∈ Text.upTo '\x7b' rest ∨ c ∉ rest := by
  have hblank : c ≠ ' ' := by rcases hc with rfl | rfl <;> decide
  have hlacking : c ∈ Text.lacking '(' rest ∨ c ∈ Text.lacking ')' rest ↔ c ∉ rest := by
    simp only [Text.mem_lacking]
    rcases hc with rfl | rfl <;> simp
  rw [completion.upTo_written, completion.mem_upTo_iff, ← completion.mem_gap_iff hblank,
    ← hlacking]
  simp only [List.mem_append]
  grind

theorem notMem_of_lacking {c : Char} (hc : c = '(' ∨ c = ')') (h : c ∉ rest) :
    c ∉ completion.blanks ∧ c ∉ completion.condition ∧ c ∉ completion.gap ∧
      c ∉ completion.body := by
  have hblank : c ≠ ' ' := by rcases hc with rfl | rfl <;> decide
  have hnone : c ∉ Text.upTo '\x7b' rest := fun hin => h ((List.takeWhile_prefix _).subset hin)
  rw [completion.mem_upTo_iff, not_or, not_or, ← completion.mem_gap_iff hblank] at hnone
  exact ⟨hnone.1, hnone.2.1, hnone.2.2, fun hin => h (completion.body_subset hin)⟩

theorem open_standsAlone (h : '(' ∉ rest) :
    StandsAlone '(' (rest.takeWhile Text.isBlank) written := by
  obtain ⟨hblanks, hcondition, hgap, hbody⟩ := completion.notMem_of_lacking (.inl rfl) h
  have hlacking : Text.lacking '(' rest = ['('] := if_neg h
  have hclose : '(' ∉ Text.lacking ')' rest := Text.notMem_lacking (by decide) rest
  have hbrace : '\x7b' ∉ rest.takeWhile Text.isBlank := by
    intro hin
    exact absurd (List.mem_takeWhile_imp hin) (by decide)
  refine ⟨completion.condition ++ Text.lacking ')' rest ++ completion.gap ++
    '\x7b' :: completion.body, ?_, ?_, ?_, hbrace, by simp⟩
  · rw [← completion.blanks_eq h]
    refine completion.written_eq.trans ?_
    rw [hlacking]
    simp only [List.append_assoc, List.cons_append, List.nil_append]
  · rw [← completion.blanks_eq h]
    exact hblanks
  · simp [hcondition, hclose, hgap, hbody]

theorem close_standsAlone (h : ')' ∉ rest) :
    ∃ before, StandsAlone ')' before written ∧ ('(' ∉ rest → '(' ∈ before) := by
  obtain ⟨hblanks, hcondition, hgap, hbody⟩ := completion.notMem_of_lacking (.inr rfl) h
  have hlacking : Text.lacking ')' rest = [')'] := if_neg h
  have hopen : ')' ∉ Text.lacking '(' rest := Text.notMem_lacking (by decide) rest
  have hbrace : '\x7b' ∉ Text.upTo '\x7b' written := Text.notMem_upTo _ _
  rw [completion.upTo_written] at hbrace
  simp only [List.mem_append, not_or] at hbrace
  refine ⟨completion.blanks ++ Text.lacking '(' rest ++ completion.condition,
    ⟨completion.gap ++ '\x7b' :: completion.body, ?_, ?_, ?_, ?_, by simp⟩, fun hlack => ?_⟩
  · refine completion.written_eq.trans ?_
    rw [hlacking]
    simp only [List.append_assoc, List.cons_append, List.nil_append]
  · simp [hblanks, hopen, hcondition]
  · simp [hgap, hbody]
  · simp [hbrace]
  · simp [Text.mem_lacking, hlack]

end Completion
end Header

end CaseFill
