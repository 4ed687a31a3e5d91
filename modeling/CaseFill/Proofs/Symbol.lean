import CaseFill.Symbol

/-! Where a search comes to in a symbol tree. Main statement: the symbol that a
search finds stands in the forest, has the kind and the name looked for, and meets
the bound together with all that contains it. -/
namespace CaseFill.Symbol

/-- The way down a forest to a symbol, through its ancestors from the outermost on. -/
inductive PathTo : List Symbol → List Symbol → Symbol → Prop where
  | here {forest : List Symbol} {s : Symbol} (h : s ∈ forest) : PathTo forest [] s
  | inside {forest ancestors : List Symbol} {parent s : Symbol} (h : parent ∈ forest)
      (rest : PathTo parent.children ancestors s) : PathTo forest (parent :: ancestors) s

theorem PathTo.mono {forest more ancestors : List Symbol} {s : Symbol}
    (h : PathTo forest ancestors s) (hsub : ∀ t ∈ forest, t ∈ more) : PathTo more ancestors s := by
  cases h with
  | here hs => exact .here (hsub _ hs)
  | inside hp rest => exact .inside (hsub _ hp) rest

/-- A symbol of the forest that the search may return: the one called for, and
inside the bound all the way down. -/
def Admissible (wanted : Text) (kind : SymbolKind) (bound : Option Range) (forest : List Symbol)
    (s : Symbol) : Prop :=
  ∃ ancestors, PathTo forest ancestors s ∧ s.kind = kind ∧ Text.lastSegment s.name = wanted ∧
    ∀ a ∈ ancestors ++ [s], meets bound a.range = true

section
variable {wanted : Text} {kind : SymbolKind} {bound : Option Range}

theorem Admissible.mono {forest more : List Symbol} {s : Symbol}
    (h : Admissible wanted kind bound forest s) (hsub : ∀ t ∈ forest, t ∈ more) :
    Admissible wanted kind bound more s := by
  obtain ⟨ancestors, hpath, hrest⟩ := h
  exact ⟨ancestors, hpath.mono hsub, hrest⟩

theorem admissible_self {s : Symbol} (hcalled : isCalled wanted kind s = true)
    (hmeets : meets bound s.range = true) : Admissible wanted kind bound [s] s := by
  simp only [isCalled, Bool.and_eq_true, decide_eq_true_eq] at hcalled
  exact ⟨[], .here (List.mem_singleton_self s), hcalled.1, hcalled.2, by simpa using hmeets⟩

theorem Admissible.of_children {parent s : Symbol}
    (h : Admissible wanted kind bound parent.children s)
    (hmeets : meets bound parent.range = true) : Admissible wanted kind bound [parent] s := by
  obtain ⟨ancestors, hpath, hkind, hname, hbound⟩ := h
  refine ⟨parent :: ancestors, .inside (List.mem_singleton_self parent) hpath, hkind, hname, ?_⟩
  intro a ha
  rcases List.mem_cons.mp ha with rfl | ha
  · exact hmeets
  · exact hbound a ha

-- The search and these two statements recurse alike: over a symbol and over its siblings.
mutual

theorem admissible_of_findIn : ∀ (s : Symbol) {found : Symbol},
    findIn wanted kind bound s = some found → Admissible wanted kind bound [s] found
  | ⟨name, k, range, children⟩, found, h => by
    rw [findIn] at h
    split at h
    · next hmeets =>
      split at h
      · next hcalled =>
        cases h
        exact admissible_self hcalled hmeets
      · exact (admissible_of_find children h).of_children hmeets
    · cases h

theorem admissible_of_find : ∀ (forest : List Symbol) {found : Symbol},
    find wanted kind bound forest = some found → Admissible wanted kind bound forest found
  | [], found, h => by
    rw [find] at h
    cases h
  | s :: rest, found, h => by
    rw [find] at h
    split at h
    · next hs =>
      cases h
      exact (admissible_of_findIn s hs).mono (by simp)
    · exact (admissible_of_find rest h).mono fun t ht => List.mem_cons_of_mem s ht

end

def isMatch (wanted : Text) (kind : SymbolKind) (bound : Option Range) (s : Symbol) : Bool :=
  meets bound s.range && isCalled wanted kind s

theorem isMatch_iff {s : Symbol} :
    isMatch wanted kind bound s = true ↔
      s.kind = kind ∧ Text.lastSegment s.name = wanted ∧ meets bound s.range = true := by
  simp only [isMatch, isCalled, Bool.and_eq_true, decide_eq_true_eq]
  rw [and_comm, and_assoc]

theorem find_cons_of_match {s : Symbol} (h : isMatch wanted kind bound s = true)
    (rest : List Symbol) : find wanted kind bound (s :: rest) = some s := by
  obtain ⟨hmeets, hcalled⟩ := (Bool.and_eq_true _ _).mp h
  obtain ⟨name, k, range, children⟩ := s
  rw [find, findIn, if_pos hmeets, if_pos hcalled]

theorem find_cons_of_meets {s : Symbol} (hmeets : meets bound s.range = true)
    (h : isMatch wanted kind bound s = false) (rest : List Symbol) :
    find wanted kind bound (s :: rest) =
      (find wanted kind bound s.children).or (find wanted kind bound rest) := by
  have hcalled : isCalled wanted kind s = false := by simpa [isMatch, hmeets] using h
  obtain ⟨name, k, range, children⟩ := s
  rw [find, findIn, if_pos hmeets, hcalled, if_neg (by decide)]
  cases find wanted kind bound children <;> rfl

theorem find_cons_of_not_meets {s : Symbol} (h : meets bound s.range = false)
    (rest : List Symbol) : find wanted kind bound (s :: rest) = find wanted kind bound rest := by
  obtain ⟨name, k, range, children⟩ := s
  rw [find, findIn, if_neg (by simpa using h)]

end
end CaseFill.Symbol
