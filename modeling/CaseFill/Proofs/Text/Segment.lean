import CaseFill.Text.Search

/-! The last segment of a qualified name. Main statement: it is what stands behind the
last `::`, or the whole name if there is none. -/
namespace CaseFill.Text

theorem afterLastScope?_append {t s : Text} (h : afterLastScope? t = some s) (front : Text) :
    afterLastScope? (front ++ t) = some s := by
  induction front with
  | nil => exact h
  | cons c cs ih => rw [List.cons_append, afterLastScope?, ih]

/-- Only a name that begins with a colon could join the colons of a qualifier. -/
theorem afterLastScope?_of_scope {name : Text} (h : name.head? ≠ some ':') :
    afterLastScope? (':' :: ':' :: name) = some (lastSegment name) := by
  cases hname : afterLastScope? name with
  | some s => simp [afterLastScope?, lastSegment, hname]
  | none => simp [afterLastScope?, lastSegment, hname, h]

theorem lastSegment_qualified {name : Text} (h : name.head? ≠ some ':') (qualifier : Text) :
    lastSegment (qualifier ++ [':', ':'] ++ name) = lastSegment name := by
  have hscope := afterLastScope?_append (afterLastScope?_of_scope h) qualifier
  rw [lastSegment, List.append_assoc]
  exact congrArg (Option.getD · _) hscope

theorem scope_prefix_cons_iff {c : Char} {cs : Text} :
    [':', ':'] <+: c :: cs ↔ c = ':' ∧ cs.head? = some ':' := by
  cases cs with
  | nil => simp
  | cons d ds => simp [List.cons_prefix_cons, eq_comm]

theorem afterLastScope?_eq_none_iff {t : Text} :
    afterLastScope? t = none ↔ ¬[':', ':'] <:+: t := by
  induction t with
  | nil => simp [afterLastScope?]
  | cons c cs ih =>
    rw [afterLastScope?, List.infix_cons_iff, scope_prefix_cons_iff]
    cases hcs : afterLastScope? cs with
    | some s => simp [← ih, hcs]
    | none => simp [← ih, hcs]

theorem afterLastScope?_eq_some_iff {t s : Text} :
    afterLastScope? t = some s ↔
      ∃ qualifier, t = qualifier ++ [':', ':'] ++ s ∧ ¬[':', ':'] <:+: ':' :: s := by
  constructor
  · intro h
    induction t with
    | nil => simp [afterLastScope?] at h
    | cons c cs ih =>
      rw [afterLastScope?] at h
      cases hcs : afterLastScope? cs with
      | some u =>
        rw [hcs] at h
        obtain ⟨qualifier, rfl, hlast⟩ := ih (hcs.trans h)
        exact ⟨c :: qualifier, rfl, hlast⟩
      | none =>
        -- no later `::` stands in the rest, so one that begins here is the last
        rw [hcs] at h
        dsimp only at h
        split at h
        · next hscope =>
          obtain ⟨rfl, hhead⟩ := hscope
          obtain ⟨ds, rfl⟩ := List.head?_eq_some_iff.mp hhead
          cases h
          exact ⟨[], rfl, afterLastScope?_eq_none_iff.mp hcs⟩
        · cases h
  · rintro ⟨qualifier, rfl, hlast⟩
    have hscope : afterLastScope? (':' :: ':' :: s) = some s := by
      rw [afterLastScope?, afterLastScope?_eq_none_iff.mpr hlast]
      simp
    rw [List.append_assoc]
    exact afterLastScope?_append hscope qualifier

/-- The segment is what follows the last `::` of the name: no other one begins behind it,
not even with its second colon. Without a `::` it is the whole name. -/
def IsLastSegment (segment name : Text) : Prop :=
  segment = name ∧ ¬[':', ':'] <:+: name ∨
    ∃ qualifier, name = qualifier ++ [':', ':'] ++ segment ∧ ¬[':', ':'] <:+: ':' :: segment

theorem lastSegment_eq_iff {name segment : Text} :
    lastSegment name = segment ↔ IsLastSegment segment name := by
  unfold lastSegment IsLastSegment
  cases h : afterLastScope? name with
  | none =>
    have hnone := afterLastScope?_eq_none_iff.mp h
    constructor
    · rintro rfl
      exact .inl ⟨rfl, hnone⟩
    · rintro (⟨rfl, -⟩ | ⟨qualifier, rfl, -⟩)
      · rfl
      · exact absurd ⟨qualifier, segment, rfl⟩ hnone
  | some s =>
    have hsome := afterLastScope?_eq_some_iff (t := name) (s := segment)
    rw [h, Option.some.injEq] at hsome
    have hscope : [':', ':'] <:+: name := by
      obtain ⟨qualifier, rfl, -⟩ := afterLastScope?_eq_some_iff.mp h
      exact ⟨qualifier, s, rfl⟩
    simpa [hscope] using hsome

theorem lastSegment_suffix (t : Text) : lastSegment t <:+ t := by
  rcases lastSegment_eq_iff.mp (Eq.refl (lastSegment t)) with ⟨heq, -⟩ | ⟨qualifier, heq, -⟩
  · exact ⟨[], heq⟩
  · exact ⟨qualifier ++ [':', ':'], heq.symm⟩

end CaseFill.Text
