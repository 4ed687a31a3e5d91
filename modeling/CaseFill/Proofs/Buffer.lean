import CaseFill.Buffer
import CaseFill.Proofs.Text.Line
import CaseFill.Proofs.Text.Search

/-! Transactions as changes of text. A change is a list of pieces, each kept or
replaced, so it has a text before it, a text after it and an inverse. Main
statements: edits that name the replaced pieces of a change, in order or in
reverse order, carry out that change; and a position stands where its line and
column say. -/
namespace CaseFill

def Range.apart (a b : Range) : Prop := a.stop ≤ b.start ∨ b.stop ≤ a.start

namespace Buffer
open Text (IsLines)

theorem placeInLine_width {x : Text} (y : Text) (hx : '\n' ∉ x) :
    placeInLine (x ++ y) (Text.width x) = x.length := by
  induction x with
  | nil => cases y <;> rfl
  | cons c cs ih =>
    rw [List.mem_cons, not_or] at hx
    obtain ⟨n, hwidth, hrest⟩ := Text.exists_width_cons c cs
    rw [hwidth, List.cons_append, placeInLine, if_neg (Ne.symm hx.1), hrest, ih hx.2, List.length_cons]

theorem isLines_tail {m : Nat} {c : Char} {cs : Text} (h : IsLines (m + 1) (c :: cs)) :
    IsLines (if c = '\n' then m else m + 1) cs := by
  obtain ⟨hcount, hlast⟩ := h
  refine ⟨?_, ?_⟩
  · by_cases hc : c = '\n'
    · simpa [hc] using hcount
    · simpa [hc] using hcount
  · intro d hd
    cases cs with
    | nil => simp at hd
    | cons e es => exact hlast d (by simpa [List.getLast?_cons_cons] using hd)

theorem place_of_isLines {n : Nat} {before x : Text} (y : Text) (hb : IsLines n before)
    (hx : '\n' ∉ x) :
    place (before ++ (x ++ y)) ⟨n, Text.width x⟩ = before.length + x.length := by
  change placeOf _ n _ = _
  induction before generalizing n with
  | nil =>
    obtain rfl : 0 = n := hb.1
    simpa [placeOf] using placeInLine_width y hx
  | cons c cs ih =>
    cases n with
    | zero => cases hb.eq_nil
    | succ m =>
      rw [List.cons_append, placeOf, ih (isLines_tail hb), List.length_cons]
      omega

def lineOf : Text → Nat → Text
  | t, 0 => Text.upTo '\n' t
  | [], _ + 1 => []
  | c :: cs, n + 1 => lineOf cs (if c = '\n' then n else n + 1)

theorem lineOf_of_isLines {n : Nat} {before x : Text} (y : Text) (hb : IsLines n before)
    (hx : '\n' ∉ x) : lineOf (before ++ (x ++ '\n' :: y)) n = x := by
  induction before generalizing n with
  | nil =>
    obtain rfl : 0 = n := hb.1
    rw [List.nil_append, lineOf, Text.upTo_append_cons y hx]
  | cons c cs ih =>
    cases n with
    | zero => cases hb.eq_nil
    | succ m => rw [List.cons_append, lineOf, ih (isLines_tail hb)]

inductive Piece where
  | kept (t : Text)
  | replaced (old new : Text)

namespace Piece

def before : Piece → Text
  | kept t => t
  | replaced old _ => old

def after : Piece → Text
  | kept t => t
  | replaced _ new => new

def inverse : Piece → Piece
  | kept t => kept t
  | replaced old new => replaced new old

end Piece

def textBefore (change : List Piece) : Text := change.flatMap Piece.before

def textAfter (change : List Piece) : Text := change.flatMap Piece.after

def inverse (change : List Piece) : List Piece := change.map Piece.inverse

@[simp] theorem textBefore_inverse (change : List Piece) :
    textBefore (inverse change) = textAfter change := by
  induction change with
  | nil => rfl
  | cons p ps ih =>
    cases p <;>
      simpa [textBefore, textAfter, inverse, Piece.before, Piece.after, Piece.inverse] using ih

@[simp] theorem textAfter_inverse (change : List Piece) :
    textAfter (inverse change) = textBefore change := by
  induction change with
  | nil => rfl
  | cons p ps ih =>
    cases p <;>
      simpa [textBefore, textAfter, inverse, Piece.before, Piece.after, Piece.inverse] using ih

def splices (start : Nat) : List Piece → List Splice
  | [] => []
  | .kept t :: rest => splices (start + t.length) rest
  | .replaced old new :: rest =>
    ⟨start, start + old.length, new⟩ :: splices (start + old.length) rest

@[simp] theorem textBefore_cons (p : Piece) (ps : List Piece) :
    textBefore (p :: ps) = p.before ++ textBefore ps := rfl

@[simp] theorem textAfter_cons (p : Piece) (ps : List Piece) :
    textAfter (p :: ps) = p.after ++ textAfter ps := rfl

/-- The splices of a change carry it out. Everything up to place `done.length` is
done already, and the text `kept` that follows there is kept. -/
theorem spliceFrom_splices (done kept : Text) (change : List Piece) :
    spliceFrom (done ++ kept ++ textBefore change) done.length
      (splices (done.length + kept.length) change) = kept ++ textAfter change := by
  induction change generalizing done kept with
  | nil => simp [splices, spliceFrom, textBefore, textAfter]
  | cons p ps ih =>
    cases p with
    | kept t =>
      have h := ih done (kept ++ t)
      simpa [splices, Piece.before, Piece.after, Nat.add_assoc] using h
    | replaced old new =>
      have hm : max done.length (done.length + kept.length + old.length) =
          (done ++ kept ++ old).length := by
        simp only [List.length_append]
        omega
      have ht : (done ++ kept ++ (old ++ textBefore ps)).take (done.length + kept.length) =
          done ++ kept := by
        rw [← List.length_append, List.take_left]
      have hrest : spliceFrom (done ++ kept ++ (old ++ textBefore ps)) (done ++ kept ++ old).length
          (splices (done.length + kept.length + old.length) ps) = textAfter ps := by
        simpa [Nat.add_assoc] using ih (done ++ kept ++ old) []
      rw [splices, spliceFrom, textBefore_cons, Piece.before, ht, hm, hrest, List.drop_left,
        textAfter_cons, Piece.after, List.append_assoc]

theorem le_of_mem_splices {start : Nat} {change : List Piece} {s : Splice}
    (h : s ∈ splices start change) : start ≤ s.start ∧ s.start ≤ s.stop := by
  induction change generalizing start with
  | nil => simp [splices] at h
  | cons p ps ih =>
    cases p with
    | kept t =>
      have := ih h
      omega
    | replaced old new =>
      rcases List.mem_cons.mp h with rfl | h
      · exact ⟨Nat.le_refl _, Nat.le_add_right ..⟩
      · have := ih h
        omega

theorem pairwise_splices (start : Nat) (change : List Piece) :
    (splices start change).Pairwise fun a b => a.stop ≤ b.start := by
  induction change generalizing start with
  | nil => exact List.Pairwise.nil
  | cons p ps ih =>
    cases p with
    | kept t => exact ih _
    | replaced old new =>
      exact List.pairwise_cons.mpr ⟨fun s hs => (le_of_mem_splices hs).1, ih _⟩

theorem sorted_splices (start : Nat) (change : List Piece) :
    (splices start change).Pairwise fun a b => a.before b = true := by
  refine (pairwise_splices start change).imp_of_mem ?_
  intro a b ha hb hab
  have hsa := le_of_mem_splices ha
  have hsb := le_of_mem_splices hb
  simp only [Splice.before, Bool.or_eq_true, Bool.and_eq_true, decide_eq_true_eq]
  omega

theorem apply_of_splices {edits : List TextEdit} {change : List Piece}
    (h : edits.map (spliceOf (textBefore change)) = splices 0 change) :
    apply (textBefore change) edits = textAfter change := by
  rw [apply, h, List.mergeSort_of_pairwise (sorted_splices 0 change)]
  exact spliceFrom_splices [] [] change

theorem splice_total (a b : Splice) : (a.before b || b.before a) = true := by
  simp only [Splice.before, Bool.or_eq_true, Bool.and_eq_true, decide_eq_true_eq]
  omega

theorem splice_trans (a b c : Splice) (hab : a.before b = true) (hbc : b.before c = true) :
    a.before c = true := by
  simp only [Splice.before, Bool.or_eq_true, Bool.and_eq_true, decide_eq_true_eq] at *
  omega

/-- Where every splice of a change removes something, the edits carry it out in
whatever order they are listed. -/
theorem apply_of_perm_splices {edits : List TextEdit} {change : List Piece}
    (h : (edits.map (spliceOf (textBefore change))).Perm (splices 0 change))
    (hne : ∀ s ∈ splices 0 change, s.start < s.stop) :
    apply (textBefore change) edits = textAfter change := by
  -- No two splices begin at one place, so there is only one way to sort them.
  have hapart : (splices 0 change).Pairwise fun a b => a.start < b.start := by
    refine (pairwise_splices 0 change).imp_of_mem ?_
    intro a b ha _ hab
    exact Nat.lt_of_lt_of_le (hne a ha) hab
  have hinj : ∀ a ∈ splices 0 change, ∀ b ∈ splices 0 change, a.start = b.start → a = b :=
    List.Pairwise.forall_of_forall_of_flip (R := fun a b => a.start = b.start → a = b)
      (fun _ _ _ => rfl) (hapart.imp fun hlt he => absurd he (Nat.ne_of_lt hlt))
      (hapart.imp fun hlt he => absurd he.symm (Nat.ne_of_lt hlt))
  have hsort : (edits.map (spliceOf (textBefore change))).mergeSort Splice.before =
      splices 0 change := by
    have hp := (List.mergeSort_perm _ Splice.before).trans h
    refine hp.eq_of_pairwise ?_ (List.pairwise_mergeSort splice_trans splice_total _)
      (sorted_splices 0 change)
    intro a b ha hb hab hba
    refine hinj a (hp.mem_iff.mp ha) b hb ?_
    simp only [Splice.before, Bool.or_eq_true, Bool.and_eq_true, decide_eq_true_eq] at hab hba
    omega
  rw [apply, hsort]
  exact spliceFrom_splices [] [] change

/-- No two edits of a transaction overlap, neither by their ranges nor by the
places that these stand for in the text. -/
def Apart (t : Text) (edits : List TextEdit) : Prop :=
  edits.Pairwise fun e f => e.range.apart f.range ∧ (spliceOf t e).apart (spliceOf t f)

theorem pairwise_apart_of_splices {t : Text} {edits : List TextEdit} {change : List Piece}
    (h : edits.map (spliceOf t) = splices 0 change) :
    edits.Pairwise fun e f => (spliceOf t e).apart (spliceOf t f) := by
  have hs := pairwise_splices 0 change
  rw [← h, List.pairwise_map] at hs
  exact hs.imp Or.inl

theorem pairwise_apart_of_reverse_splices {t : Text} {edits : List TextEdit} {change : List Piece}
    (h : edits.map (spliceOf t) = (splices 0 change).reverse) :
    edits.Pairwise fun e f => (spliceOf t e).apart (spliceOf t f) := by
  have hs := List.pairwise_reverse.mpr (pairwise_splices 0 change)
  rw [← h, List.pairwise_map] at hs
  exact hs.imp Or.inr

end Buffer
end CaseFill
