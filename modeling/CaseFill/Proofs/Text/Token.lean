import CaseFill.Proofs.Text.Search
import CaseFill.Proofs.Text.Segment
import CaseFill.Proofs.Text.Trim

/-! The tokens of a text. Main statements: a token and its last segment stand in the text
as whole words, and a text written as tokens with blanks behind them has these tokens. -/
namespace CaseFill.Text

def blankPoints : List Nat := blankRanges.flatMap fun r => List.range' r.1 (r.2 + 1 - r.1)

theorem toNat_mem_blankPoints {c : Char} (h : isBlank c = true) : c.toNat ∈ blankPoints := by
  rw [isBlank, inRanges, List.any_eq_true] at h
  obtain ⟨r, hr, hin⟩ := h
  simp only [Bool.and_eq_true, decide_eq_true_eq] at hin
  refine List.mem_flatMap.mpr ⟨r, hr, List.mem_range'_1.mpr ?_⟩
  omega

/-- White space, letters and numerals are disjoint classes. -/
theorem isIdentChar_of_isBlank {c : Char} (h : isBlank c = true) : isIdentChar c = false := by
  have hpoints : ∀ n ∈ blankPoints, isIdentChar (Char.ofNat n) = false := by decide +kernel
  have hc := hpoints c.toNat (toNat_mem_blankPoints h)
  rwa [Char.ofNat_toNat] at hc

theorem isBlank_of_isIdentChar {c : Char} (h : isIdentChar c = true) : isBlank c = false := by
  cases hc : isBlank c with
  | false => rfl
  | true =>
    rw [isIdentChar_of_isBlank hc] at h
    cases h

theorem isEdge_of_isBlank {c : Char} (h : isBlank c = true) : isEdge (some c) = true := by
  simp [isEdge, isIdentChar_of_isBlank h]

theorem isIdentChar_of_mem {t : Text} {c : Char} (h : isIdentifier t = true)
    (hc : c ∈ t) : isIdentChar c = true := by
  cases t with
  | nil => cases hc
  | cons d ds =>
    simp only [isIdentifier, Bool.and_eq_true, List.all_eq_true] at h
    rcases List.mem_cons.mp hc with rfl | hc
    · -- what may begin an identifier may also stand inside one
      have hstart := h.1
      simp only [isIdentStart, Bool.or_eq_true] at hstart
      rcases hstart with hletter | hunderscore
      · simp [isIdentChar, hletter]
      · simp [isIdentChar, hunderscore]
    · exact h.2 c hc

theorem newline_notMem_of_isIdentifier {t : Text} (h : isIdentifier t = true) :
    '\n' ∉ t := by
  intro hm
  exact absurd (isIdentChar_of_mem h hm) (by decide)

section
variable {p : Char → Bool}

theorem piecesBy_ne_nil (t : Text) : piecesBy p t ≠ [] := by
  cases t with
  | nil => simp [piecesBy]
  | cons c cs =>
    rw [piecesBy]
    split
    · simp
    · cases piecesBy p cs <;> simp [prepend]

theorem piecesBy_append_cons {b : Char} (hb : p b = true) (s t : Text) :
    piecesBy p (s ++ b :: t) = piecesBy p s ++ piecesBy p t := by
  induction s with
  | nil => simp [piecesBy, hb]
  | cons c cs ih =>
    rw [List.cons_append, piecesBy, piecesBy, ih]
    split
    · rfl
    · obtain ⟨first, others, hpieces⟩ := List.exists_cons_of_ne_nil (piecesBy_ne_nil (p := p) cs)
      rw [hpieces]
      rfl

theorem piecesBy_eq_singleton {t : Text} (h : ∀ c ∈ t, p c = false) : piecesBy p t = [t] := by
  induction t with
  | nil => rfl
  | cons c cs ih =>
    obtain ⟨hc, hcs⟩ := List.forall_mem_cons.mp h
    rw [piecesBy, ih hcs, hc]
    rfl

theorem not_of_mem_piece {t piece : Text} {c : Char}
    (h : piece ∈ piecesBy p t) (hc : c ∈ piece) : p c = false := by
  induction t generalizing piece with
  | nil =>
    obtain rfl := List.mem_singleton.mp h
    cases hc
  | cons d ds ih =>
    rw [piecesBy] at h
    split at h
    · rcases List.mem_cons.mp h with rfl | h
      · cases hc
      · exact ih h hc
    · next hd =>
      obtain ⟨first, others, hpieces⟩ := List.exists_cons_of_ne_nil (piecesBy_ne_nil (p := p) ds)
      rw [hpieces] at h ih
      rcases List.mem_cons.mp h with rfl | h
      · rcases List.mem_cons.mp hc with rfl | hc
        · simpa using hd
        · exact ih List.mem_cons_self hc
      · exact ih (List.mem_cons_of_mem first h) hc

end

theorem tokens_append_cons {b : Char} (hb : isBlank b = true) (s t : Text) :
    tokens (s ++ b :: t) = tokens s ++ tokens t := by
  rw [tokens, piecesBy_append_cons hb, List.filter_append, tokens, tokens]

theorem tokens_concat {b : Char} (hb : isBlank b = true) (t : Text) :
    tokens (t ++ [b]) = tokens t := by
  rw [tokens_append_cons hb]
  exact List.append_nil (tokens t)

theorem tokens_eq_singleton {t : Text} (h : ∀ c ∈ t, isBlank c = false) (hne : t ≠ []) :
    tokens t = [t] := by
  rw [tokens, piecesBy_eq_singleton h]
  simp [hne]

theorem tokens_replicate_append (n : Nat) (t : Text) :
    tokens (List.replicate n ' ' ++ t) = tokens t := by
  induction n with
  | zero => rfl
  | succ n ih =>
    rw [List.replicate_succ, List.cons_append, ← List.nil_append (' ' :: _),
      tokens_append_cons (by decide), ih]
    rfl

theorem tokens_word_append {word : Text} (h : ∀ c ∈ word, isBlank c = false) (hne : word ≠ [])
    (n : Nat) (t : Text) :
    tokens (word ++ List.replicate (n + 1) ' ' ++ t) = word :: tokens t := by
  rw [List.append_assoc, List.replicate_succ, List.cons_append, tokens_append_cons (by decide),
    tokens_eq_singleton h hne, tokens_replicate_append]
  rfl

theorem eq_of_mem_tokens {t token : Text} (hall : ∀ c ∈ t, isBlank c = false)
    (h : token ∈ tokens t) : token = t := by
  rw [tokens, piecesBy_eq_singleton hall] at h
  exact List.mem_singleton.mp (List.mem_of_mem_filter h)

theorem hasWord_of_mem_tokens {t token : Text} (h : token ∈ tokens t) : HasWord token t := by
  -- the text is cut at its first blank, and the rest is shorter
  induction hlength : t.length using Nat.strong_induction_on generalizing t with
  | _ n ih =>
    cases hblank : List.find? isBlank t with
    | none =>
      have hall : ∀ c ∈ t, isBlank c = false := by simpa using hblank
      exact ⟨0, [], [], by simp [eq_of_mem_tokens hall h], rfl, rfl, rfl⟩
    | some b =>
      obtain ⟨hb, front, rest, rfl, hfront⟩ := List.find?_eq_some_iff_append.mp hblank
      have hedge := isEdge_of_isBlank hb
      rw [tokens_append_cons hb, List.mem_append] at h
      rcases h with hin | hin
      · have hall : ∀ c ∈ front, isBlank c = false := by simpa using hfront
        exact ⟨0, [], b :: rest, by simp [eq_of_mem_tokens hall hin], rfl, rfl, hedge⟩
      · have hshorter : rest.length < n := by
          rw [← hlength]
          simp only [List.length_append, List.length_cons]
          omega
        obtain ⟨_, left, right, rfl, -, hleft, hright⟩ := ih rest.length hshorter hin rfl
        refine ⟨_, front ++ b :: left, right, by simp, rfl, ?_, hright⟩
        rw [Option.or_none] at hleft ⊢
        rw [List.getLast?_append, List.getLast?_cons]
        cases hlast : left.getLast? with
        | none => simpa using hedge
        | some c =>
          rw [hlast] at hleft
          simpa using hleft

theorem hasWord_lastSegment {token t : Text} (h : HasWord token t) :
    HasWord (lastSegment token) t := by
  rcases lastSegment_eq_iff.mp (Eq.refl (lastSegment token)) with ⟨heq, -⟩ | ⟨qualifier, heq, -⟩
  · rwa [heq]
  · have hwhole : HasWord (qualifier ++ [':', ':'] ++ lastSegment token ++ []) t := by
      rwa [List.append_nil, ← heq]
    refine hwhole.of_append ?_ rfl
    rw [List.getLast?_append]
    change isEdge (some ':') = true
    decide

end CaseFill.Text
