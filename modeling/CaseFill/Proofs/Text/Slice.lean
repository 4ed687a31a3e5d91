import CaseFill.Proofs.Text.Boundary
import CaseFill.Proofs.Text.Match
import CaseFill.Proofs.Text.Word

/-! Readings of a text by byte offsets. A text is stored as UTF-8, and to cut it at an offset
that is no boundary is a failure. Main statements: the search for a whole word and the look-up
of the identifier at a position, done by such cuts, do not fail and have the results of the
searches by places. -/
namespace CaseFill.Text
variable {word t : Text}

/-- The failure of a cut: the offset lies inside a character or past the end. -/
structure OffBoundary where
  offset : Nat

abbrev Sliced (α : Type) := Except OffBoundary α

def Sliced.ofOption {α : Type} (b : Nat) : Option α → Sliced α
  | some a => .ok a
  | none => .error ⟨b⟩

def sliceTo (t : Text) (b : Nat) : Sliced Text := .ofOption b ((cutAtByte t b).map (·.1))

def sliceFrom (t : Text) (b : Nat) : Sliced Text := .ofOption b ((cutAtByte t b).map (·.2))

def slice (t : Text) (start stop : Nat) : Sliced Text := do
  sliceFrom (← sliceTo t stop) start

def columnSliced (t : Text) (b : Nat) : Sliced Nat := .ofOption b (columnAtByte t b)

structure CutsAtBoundary (t : Text) (b : Nat) : Prop where
  sliceTo_iff : (∃ s, sliceTo t b = .ok s) ↔ IsBoundary t b
  sliceFrom_iff : (∃ s, sliceFrom t b = .ok s) ↔ IsBoundary t b
  column_iff : (∃ n, columnSliced t b = .ok n) ↔ IsBoundary t b

theorem Sliced.exists_ofOption_iff {α : Type} {b : Nat} {o : Option α} :
    (∃ a, Sliced.ofOption b o = .ok a) ↔ o.isSome = true := by
  cases o <;> simp [Sliced.ofOption]

theorem cutsAtBoundary (t : Text) (b : Nat) : CutsAtBoundary t b := by
  constructor
  · rw [sliceTo, Sliced.exists_ofOption_iff, Option.isSome_map, isSome_cutAtByte_iff]
  · rw [sliceFrom, Sliced.exists_ofOption_iff, Option.isSome_map, isSome_cutAtByte_iff]
  · rw [columnSliced, Sliced.exists_ofOption_iff, isSome_columnAtByte_iff]

/-- The second letter has two bytes. -/
example : sliceFrom "aé".toList 2 = .error ⟨2⟩ ∧ sliceFrom "aé".toList 3 = .ok [] := ⟨rfl, rfl⟩

@[simp] theorem ok_bind {α β : Type} (a : α) (f : α → Sliced β) : (Except.ok a >>= f) = f a := rfl

@[simp] theorem pure_eq_ok {α : Type} (a : α) : (pure a : Sliced α) = .ok a := rfl

@[simp] theorem map_ok {α β : Type} (f : α → β) (a : α) :
    (f <$> (Except.ok a : Sliced α)) = .ok (f a) := rfl

theorem sliceTo_append (x y : Text) : sliceTo (x ++ y) (byteSize x) = .ok x := by
  simp [sliceTo, cutAtByte_append, Sliced.ofOption]

theorem sliceFrom_append (x y : Text) : sliceFrom (x ++ y) (byteSize x) = .ok y := by
  simp [sliceFrom, cutAtByte_append, Sliced.ofOption]

theorem columnSliced_append (x y : Text) : columnSliced (x ++ y) (byteSize x) = .ok (width x) := by
  simp [columnSliced, columnAtByte_eq_map, cutAtByte_append, Sliced.ofOption]

theorem columnSliced_of_prefix {x : Text} (h : x <+: t) :
    columnSliced t (byteSize x) = .ok (width x) := by
  obtain ⟨y, rfl⟩ := h
  exact columnSliced_append x y

theorem slice_append (x y z : Text) :
    slice (x ++ y ++ z) (byteSize x) (byteSize (x ++ y)) = .ok y := by
  rw [slice, sliceTo_append, ok_bind, sliceFrom_append]

@[simp] theorem sliceTo_offset (t : Text) (i : Nat) : sliceTo t (offset t i) = .ok (t.take i) := by
  simpa [offset] using sliceTo_append (t.take i) (t.drop i)

@[simp] theorem sliceFrom_offset (t : Text) (i : Nat) :
    sliceFrom t (offset t i) = .ok (t.drop i) := by
  simpa [offset] using sliceFrom_append (t.take i) (t.drop i)

@[simp] theorem columnSliced_offset (t : Text) (i : Nat) :
    columnSliced t (offset t i) = .ok (width (t.take i)) := by
  simpa [offset] using columnSliced_append (t.take i) (t.drop i)

theorem offset_add (t : Text) (i j : Nat) : offset t (i + j) = offset t i + offset (t.drop i) j := by
  rw [offset, List.take_add, byteSize_append, offset, offset]

theorem offset_of_prefix (h : word <+: t) : offset t word.length = byteSize word := by
  rw [offset, ← List.prefix_iff_eq_take.mp h]

theorem offset_add_byteSize {i : Nat} (h : word <+: t.drop i) :
    offset t i + byteSize word = offset t (i + word.length) := by
  rw [offset_add, offset_of_prefix h]

theorem offset_succ {c : Char} {b : Nat} (hc : c.utf8Size = 1) (h : t[b]? = some c) :
    offset t b + 1 = offset t (b + 1) := by
  have hprefix : [c] <+: t.drop b := by
    obtain ⟨hlt, hget⟩ := List.getElem?_eq_some_iff.mp h
    exact ⟨t.drop (b + 1), by rw [List.drop_eq_getElem_cons hlt, hget]; rfl⟩
  have hadd := offset_add_byteSize hprefix
  rwa [byteSize, byteSize, hc] at hadd

theorem prefix_of_mem_matchPlaces {skip i : Nat} (h : i ∈ matchPlaces word skip t) :
    word <+: t.drop i := by
  fun_induction matchPlaces word skip t generalizing i with
  | case1 => cases h
  | case2 skip c cs ih =>
    obtain ⟨j, hj, rfl⟩ := List.mem_map.mp h
    exact ih hj
  | case3 c cs hmatch ih =>
    rcases List.mem_cons.mp h with rfl | h
    · exact List.isPrefixOf_iff_prefix.mp hmatch
    · obtain ⟨j, hj, rfl⟩ := List.mem_map.mp h
      exact ih hj
  | case4 c cs hmatch ih =>
    obtain ⟨j, hj, rfl⟩ := List.mem_map.mp h
    exact ih hj

theorem findM?_map_ok {α β : Type} {places : List α} {f : β → Sliced Bool} {g : α → β}
    {p : α → Bool} (h : ∀ a ∈ places, f (g a) = .ok (p a)) :
    (places.map g).findM? f = .ok ((places.find? p).map g) := by
  induction places with
  | nil => rfl
  | cons a places ih =>
    obtain ⟨ha, hrest⟩ := List.forall_mem_cons.mp h
    rw [List.map_cons, List.findM?, ha, ok_bind, List.find?_cons]
    cases p a with
    | true => rfl
    | false => exact ih hrest

/-- The byte offset of the first match that has edges on both sides. Each match is looked at
by cutting the text in front of it and behind it. -/
def findWordSliced (word t : Text) : Sliced (Option Nat) :=
  if word = [] then return none
  else ((matchPlaces word 0 t).map (offset t)).findM? fun b => do
    let left ← sliceTo t b
    let right ← sliceFrom t (b + byteSize word)
    return isEdge left.getLast? && isEdge right.head?

theorem findWordSliced_eq (word t : Text) : findWordSliced word t = .ok (findWordByte word t) := by
  rw [findWordSliced]
  split
  · next hnil => simp [findWordByte, findWord, hnil]
  · next hne =>
    rw [findWordByte_eq_find? hne]
    refine findM?_map_ok ?_
    intro i hi
    rw [offset_add_byteSize (prefix_of_mem_matchPlaces hi), sliceTo_offset, sliceFrom_offset]
    simp [standsAlone]

def charOffsets : Nat → Text → List (Nat × Char)
  | _, [] => []
  | b, c :: cs => (b, c) :: charOffsets (b + c.utf8Size) cs

theorem charOffsets_append (b : Nat) (x y : Text) :
    charOffsets b (x ++ y) = charOffsets b x ++ charOffsets (b + byteSize x) y := by
  induction x generalizing b with
  | nil => rfl
  | cons c cs ih => simp [charOffsets, ih, byteSize, Nat.add_assoc]

theorem mem_of_mem_charOffsets {b : Nat} {q : Nat × Char} (h : q ∈ charOffsets b t) : q.2 ∈ t := by
  induction t generalizing b with
  | nil => cases h
  | cons c cs ih =>
    rcases List.mem_cons.mp h with rfl | h
    · exact List.mem_cons_self
    · exact List.mem_cons_of_mem c (ih h)

def runStart? (before : Text) : Option Nat :=
  ((charOffsets 0 before).reverse.takeWhile fun q => isIdentChar q.2).getLast?.map (·.1)

def runStop? (after : Text) : Option Nat :=
  ((charOffsets 0 after).find? fun q => !isIdentChar q.2).map (·.1)

def runSliced (line : Text) (b : Nat) : Sliced (Option Text) := do
  let start := (runStart? (← sliceTo line b)).getD b
  let stop := (runStop? (← sliceFrom line b)).elim (byteSize line) (b + ·)
  if start < stop then some <$> slice line start stop else return none

def wordAtSliced (content : Text) (p : Position) : Sliced (Option Text) :=
  match line? content p.line with
  | none => return none
  | some line =>
    match byteAtColumn line p.column with
    | none => return none
    | some b => runSliced line b

section
variable {left front back right : Text}

theorem byteSize_eq_zero_iff : byteSize t = 0 ↔ t = [] := by
  cases t with
  | nil => simp [byteSize]
  | cons c cs =>
    have hpos := c.utf8Size_pos
    simp [byteSize, hpos.ne']

theorem runStart?_append (hleft : isEdge left.getLast? = true)
    (hfront : ∀ c ∈ front, isIdentChar c = true) :
    (runStart? (left ++ front)).getD (byteSize (left ++ front)) = byteSize left := by
  have hpassed : ∀ q ∈ (charOffsets (byteSize left) front).reverse, isIdentChar q.2 = true := by
    intro q hq
    exact hfront q.2 (mem_of_mem_charOffsets (List.mem_reverse.mp hq))
  have hstop : (charOffsets 0 left).reverse.takeWhile (fun q => isIdentChar q.2) = [] := by
    rcases List.eq_nil_or_concat' left with rfl | ⟨w, c, rfl⟩
    · rfl
    · rw [charOffsets_append, List.reverse_append]
      exact List.takeWhile_cons_of_neg (by simpa [isEdge] using hleft)
  have hrun : (charOffsets 0 (left ++ front)).reverse.takeWhile (fun q => isIdentChar q.2) =
      (charOffsets (byteSize left) front).reverse := by
    rw [charOffsets_append, Nat.zero_add, List.reverse_append,
      List.takeWhile_append_of_pos hpassed, hstop, List.append_nil]
  rw [runStart?, hrun, List.getLast?_reverse]
  cases front with
  | nil => simp [charOffsets]
  | cons c cs => rfl

theorem runStop?_append (hback : ∀ c ∈ back, isIdentChar c = true)
    (hright : isEdge right.head? = true) (before : Text) :
    (runStop? (back ++ right)).elim (byteSize (before ++ (back ++ right))) (byteSize before + ·) =
      byteSize (before ++ back) := by
  have hpassed : (charOffsets 0 back).find? (fun q => !isIdentChar q.2) = none := by
    rw [List.find?_eq_none]
    intro q hq
    simp [hback q.2 (mem_of_mem_charOffsets hq)]
  rw [runStop?, charOffsets_append, List.find?_append, hpassed, Option.none_or, Nat.zero_add]
  cases right with
  | nil => simp [charOffsets]
  | cons c cs =>
    have hc : isIdentChar c = false := by simpa [isEdge] using hright
    simp [charOffsets, hc]

theorem IsRun.runSliced_eq (h : IsRun left (front ++ back) right) :
    runSliced (left ++ front ++ (back ++ right)) (byteSize (left ++ front)) =
      .ok (if front ++ back = [] then none else some (front ++ back)) := by
  obtain ⟨hfront, hback⟩ := List.forall_mem_append.mp h.ident
  have hslice : slice (left ++ front ++ (back ++ right)) (byteSize left)
      (byteSize (left ++ front ++ back)) = .ok (front ++ back) := by
    simpa only [List.append_assoc] using slice_append left (front ++ back) right
  have hsize : byteSize left < byteSize (left ++ front ++ back) ↔ ¬front ++ back = [] := by
    rw [List.append_assoc, byteSize_append, ← byteSize_eq_zero_iff]
    omega
  rw [runSliced, sliceTo_append, ok_bind, sliceFrom_append, ok_bind,
    runStart?_append h.left_edge hfront, runStop?_append hback h.right_edge]
  by_cases hnil : front ++ back = []
  · simp only [hsize, hnil, not_true_eq_false, if_false, if_true, pure_eq_ok]
  · simp only [hsize, hnil, not_false_eq_true, if_true, if_false, hslice, map_ok]

end

theorem wordAtSliced_eq (content : Text) (p : Position) :
    wordAtSliced content p = .ok (wordAt content p) := by
  cases hline : line? content p.line with
  | none => simp [wordAtSliced, wordAt, hline]
  | some line =>
    cases hcut : splitAtColumn line p.column with
    | none => simp [wordAtSliced, byteAtColumn_eq_map, wordAt, hline, hcut]
    | some parts =>
      obtain ⟨before, after⟩ := parts
      obtain ⟨rfl, -⟩ := splitAtColumn_eq_some_iff.mp hcut
      have hread : wordAtSliced content p = runSliced (before ++ after) (byteSize before) := by
        simp only [wordAtSliced, hline, byteAtColumn_eq_map, hcut, Option.map_some]
      obtain ⟨left, front, back, right, rfl, rfl, hrun⟩ := exists_isRun before after
      rw [hread, hrun.runSliced_eq, wordAt_of_cut hline hcut, hrun.runAround_eq]

end CaseFill.Text
