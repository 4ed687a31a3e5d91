import CaseFill.Proofs.Symbol
import CaseFill.Proofs.Text.Segment

/-! The order of a search. A walk through a forest comes to every symbol, to parents
before their children and to siblings from left to right. Main statement: the search ends
at the first symbol of the walk that has the kind and the name looked for and lies in the
bound with all its ancestors. -/
namespace CaseFill.Symbol

structure Visit where
  ancestors : List Symbol
  symbol : Symbol

mutual

def visitsOf (ancestors : List Symbol) : Symbol → List Visit
  | ⟨name, kind, range, children⟩ =>
    ⟨ancestors, ⟨name, kind, range, children⟩⟩ ::
      visits (ancestors ++ [⟨name, kind, range, children⟩]) children

def visits (ancestors : List Symbol) : List Symbol → List Visit
  | [] => []
  | s :: rest => visitsOf ancestors s ++ visits ancestors rest

end

theorem visits_cons (ancestors : List Symbol) (s : Symbol) (rest : List Symbol) :
    visits ancestors (s :: rest) =
      ⟨ancestors, s⟩ :: (visits (ancestors ++ [s]) s.children ++ visits ancestors rest) := by
  obtain ⟨name, kind, range, children⟩ := s
  rw [visits, visitsOf, List.cons_append]

section
variable {motive : List Symbol → Prop}

mutual

theorem children_induction (nil : motive [])
    (cons : ∀ s rest, motive s.children → motive rest → motive (s :: rest)) :
    ∀ s : Symbol, motive s.children
  | ⟨_, _, _, children⟩ => forest_induction nil cons children

theorem forest_induction (nil : motive [])
    (cons : ∀ s rest, motive s.children → motive rest → motive (s :: rest)) :
    ∀ forest : List Symbol, motive forest
  | [] => nil
  | s :: rest => cons s rest (children_induction nil cons s) (forest_induction nil cons rest)

end

end

theorem pathTo_cons_iff {s t : Symbol} {rest ancestors : List Symbol} :
    PathTo (s :: rest) ancestors t ↔
      ancestors = [] ∧ t = s ∨ (∃ deeper, ancestors = s :: deeper ∧ PathTo s.children deeper t) ∨
        PathTo rest ancestors t := by
  constructor
  · intro h
    cases h with
    | here ht =>
      rcases List.mem_cons.mp ht with rfl | ht
      · exact .inl ⟨rfl, rfl⟩
      · exact .inr (.inr (.here ht))
    | inside hparent deeper =>
      rcases List.mem_cons.mp hparent with rfl | hparent
      · exact .inr (.inl ⟨_, rfl, deeper⟩)
      · exact .inr (.inr (.inside hparent deeper))
  · rintro (⟨rfl, rfl⟩ | ⟨deeper, rfl, h⟩ | h)
    · exact .here List.mem_cons_self
    · exact .inside List.mem_cons_self h
    · exact h.mono fun u hu => List.mem_cons_of_mem s hu

theorem mem_visits_iff {forest outer : List Symbol} {v : Visit} :
    v ∈ visits outer forest ↔
      ∃ ancestors, v.ancestors = outer ++ ancestors ∧ PathTo forest ancestors v.symbol := by
  induction forest using forest_induction generalizing outer with
  | nil =>
    have hnone : ∀ ancestors, ¬PathTo [] ancestors v.symbol := by
      intro ancestors h
      cases h with
      | here h => cases h
      | inside h _ => cases h
    simp [visits, hnone]
  | cons s rest inside beside =>
    rw [visits_cons, List.mem_cons, List.mem_append, inside, beside]
    simp only [pathTo_cons_iff]
    constructor
    · rintro (rfl | ⟨deeper, hv, h⟩ | ⟨ancestors, hv, h⟩)
      · exact ⟨[], (List.append_nil outer).symm, .inl ⟨rfl, rfl⟩⟩
      · refine ⟨s :: deeper, ?_, .inr (.inl ⟨deeper, rfl, h⟩)⟩
        rw [hv, List.append_assoc, List.singleton_append]
      · exact ⟨ancestors, hv, .inr (.inr h)⟩
    · rintro ⟨ancestors, hv, ⟨rfl, ht⟩ | ⟨deeper, rfl, h⟩ | h⟩
      · left
        obtain ⟨vAncestors, vSymbol⟩ := v
        simp_all
      · refine .inr (.inl ⟨deeper, ?_, h⟩)
        rw [hv, List.append_assoc, List.singleton_append]
      · exact .inr (.inr ⟨ancestors, hv, h⟩)

/-- What is looked for: a symbol of the kind and with the name as the last segment of its
own, in touch with the bound like each of its ancestors. -/
structure Visit.IsSought (wanted : Text) (kind : SymbolKind) (bound : Option Range)
    (v : Visit) : Prop where
  kind_eq : v.symbol.kind = kind
  named : Text.IsLastSegment wanted v.symbol.name
  inBound : ∀ b, bound = some b → ∀ a ∈ v.ancestors ++ [v.symbol],
    a.range.start ≤ b.stop ∧ b.start ≤ a.range.stop

def Visit.isSought (wanted : Text) (kind : SymbolKind) (bound : Option Range) (v : Visit) : Bool :=
  v.ancestors.all (fun a => meets bound a.range) && isMatch wanted kind bound v.symbol

section
variable {wanted : Text} {kind : SymbolKind} {bound : Option Range}

theorem meets_iff {range : Range} :
    meets bound range = true ↔
      ∀ b, bound = some b → range.start ≤ b.stop ∧ b.start ≤ range.stop := by
  cases bound with
  | none => simp [meets]
  | some b => simp [meets, Range.intersects]

theorem Visit.isSought_iff {v : Visit} :
    v.isSought wanted kind bound = true ↔ v.IsSought wanted kind bound := by
  have hbound : (∀ b, bound = some b → ∀ a ∈ v.ancestors ++ [v.symbol],
      a.range.start ≤ b.stop ∧ b.start ≤ a.range.stop) ↔
      (∀ a ∈ v.ancestors, meets bound a.range = true) ∧ meets bound v.symbol.range = true := by
    simp only [meets_iff, List.forall_mem_append, List.forall_mem_singleton]
    exact ⟨fun h => ⟨fun a ha b hb => (h b hb).1 a ha, fun b hb => (h b hb).2⟩,
      fun h b hb => ⟨fun a ha => h.1 a ha b hb, h.2 b hb⟩⟩
  rw [isSought, Bool.and_eq_true, List.all_eq_true, isMatch_iff, Text.lastSegment_eq_iff]
  constructor
  · rintro ⟨hancestors, hkind, hname, hmeets⟩
    exact ⟨hkind, hname, hbound.mpr ⟨hancestors, hmeets⟩⟩
  · rintro ⟨hkind, hname, hin⟩
    obtain ⟨hancestors, hmeets⟩ := hbound.mp hin
    exact ⟨hancestors, hkind, hname, hmeets⟩

theorem find?_visits_eq_none {forest ancestors : List Symbol}
    (h : ∃ a ∈ ancestors, meets bound a.range = false) :
    (visits ancestors forest).find? (Visit.isSought wanted kind bound) = none := by
  obtain ⟨a, ha, hmeets⟩ := h
  rw [List.find?_eq_none]
  intro v hv hsought
  obtain ⟨deeper, hdeeper, -⟩ := mem_visits_iff.mp hv
  have hall := ((Bool.and_eq_true _ _).mp hsought).1
  rw [List.all_eq_true] at hall
  have hin := hall a (by rw [hdeeper]; exact List.mem_append_left _ ha)
  rw [hmeets] at hin
  cases hin

-- The ancestors are generalised: the search itself no longer sees them, but it goes down
-- only below symbols that meet the bound.
theorem find_eq_find?_visits {forest ancestors : List Symbol}
    (h : ∀ a ∈ ancestors, meets bound a.range = true) :
    find wanted kind bound forest =
      ((visits ancestors forest).find? (Visit.isSought wanted kind bound)).map Visit.symbol := by
  induction forest using forest_induction generalizing ancestors with
  | nil => rfl
  | cons s rest inside beside =>
    have hs : Visit.isSought wanted kind bound ⟨ancestors, s⟩ = isMatch wanted kind bound s := by
      have hall : ancestors.all (fun a => meets bound a.range) = true := List.all_eq_true.mpr h
      rw [Visit.isSought, hall, Bool.true_and]
    rw [visits_cons]
    cases hmatch : isMatch wanted kind bound s with
    | true =>
      rw [find_cons_of_match hmatch, List.find?_cons, hs, hmatch]
      rfl
    | false =>
      rw [List.find?_cons_of_neg (by rw [hs, hmatch]; decide), List.find?_append, Option.map_or,
        ← beside h]
      cases hmeets : meets bound s.range with
      | true =>
        have hdeeper : ∀ a ∈ ancestors ++ [s], meets bound a.range = true := by
          rw [List.forall_mem_append, List.forall_mem_singleton]
          exact ⟨h, hmeets⟩
        rw [find_cons_of_meets hmeets hmatch, inside hdeeper]
      | false =>
        rw [find_cons_of_not_meets hmeets,
          find?_visits_eq_none ⟨s, List.mem_append_right _ (List.mem_singleton_self s), hmeets⟩]
        rfl

end

/-- The search returns the first symbol of the walk that is looked for, and none exactly
when the forest has no such symbol. -/
theorem find_eq_first_sought (wanted : Text) (kind : SymbolKind) (bound : Option Range)
    (forest : List Symbol) :
    (∀ found, find wanted kind bound forest = some found ↔
      ∃ passed v later, visits [] forest = passed ++ v :: later ∧ v.symbol = found ∧
        v.IsSought wanted kind bound ∧ ∀ w ∈ passed, ¬w.IsSought wanted kind bound) ∧
    (find wanted kind bound forest = none ↔
      ¬∃ ancestors s, PathTo forest ancestors s ∧
        Visit.IsSought wanted kind bound ⟨ancestors, s⟩) := by
  have hfind : find wanted kind bound forest =
      ((visits [] forest).find? (Visit.isSought wanted kind bound)).map Visit.symbol :=
    find_eq_find?_visits (List.forall_mem_nil _)
  rw [hfind]
  constructor
  · intro found
    simp only [Option.map_eq_some_iff, List.find?_eq_some_iff_append, Visit.isSought_iff]
    constructor
    · rintro ⟨v, ⟨hsought, passed, later, hwalk, hpassed⟩, rfl⟩
      refine ⟨passed, v, later, hwalk, rfl, hsought, ?_⟩
      intro w hw hsought
      have hnot := hpassed w hw
      rw [Visit.isSought_iff.mpr hsought] at hnot
      cases hnot
    · rintro ⟨passed, v, later, hwalk, rfl, hsought, hpassed⟩
      refine ⟨v, ⟨hsought, passed, later, hwalk, ?_⟩, rfl⟩
      intro w hw
      simpa [← Visit.isSought_iff] using hpassed w hw
  · rw [Option.map_eq_none_iff, List.find?_eq_none]
    simp only [Visit.isSought_iff, mem_visits_iff, List.nil_append]
    constructor
    · rintro h ⟨ancestors, s, hpath, hsought⟩
      exact h ⟨ancestors, s⟩ ⟨ancestors, rfl, hpath⟩ hsought
    · rintro h v ⟨ancestors, rfl, hpath⟩ hsought
      exact h ⟨v.ancestors, v.symbol, hpath, hsought⟩

end CaseFill.Symbol
