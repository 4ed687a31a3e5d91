import CaseFill.Protocol.Answer
import CaseFill.Proofs.Symbol
import CaseFill.Proofs.Text.Segment
import Mathlib.Data.List.Forall2

/-! Nested and flat answers about the symbols of a document. A search through a nested
answer passes over whole subtrees, a search through a flat one looks at every entry.
Main statement: where children lie within their parents, both come to the same symbol,
also when the flat answer qualifies the names. -/
namespace CaseFill

theorem Position.le_trans {p q r : Position} (hpq : p ≤ q) (hqr : q ≤ r) : p ≤ r := by
  change p.line < q.line ∨ (p.line = q.line ∧ p.column ≤ q.column) at hpq
  change q.line < r.line ∨ (q.line = r.line ∧ q.column ≤ r.column) at hqr
  change p.line < r.line ∨ (p.line = r.line ∧ p.column ≤ r.column)
  omega

namespace Range

def Within (a b : Range) : Prop := b.start ≤ a.start ∧ a.stop ≤ b.stop

instance (a b : Range) : Decidable (a.Within b) :=
  inferInstanceAs (Decidable (b.start ≤ a.start ∧ a.stop ≤ b.stop))

theorem Within.trans {a b c : Range} (hab : a.Within b) (hbc : b.Within c) : a.Within c :=
  ⟨Position.le_trans hbc.1 hab.1, Position.le_trans hab.2 hbc.2⟩

end Range

namespace Symbol
variable {bound : Option Range}

/-- What contains a range that meets the bound meets it too. -/
theorem meets_of_within {a b : Range} (h : a.Within b) (ha : meets bound a = true) :
    meets bound b = true := by
  cases bound with
  | none => rfl
  | some r =>
    simp only [meets, Option.all_some, Range.intersects, Bool.and_eq_true,
      decide_eq_true_eq] at ha ⊢
    exact ⟨Position.le_trans h.1 ha.1, Position.le_trans ha.2 h.2⟩

end Symbol

namespace Protocol
open CaseFill.Symbol (find isMatch meets)

namespace SymbolTree

def inner (t : SymbolTree) : List SymbolTree := t.children.getD []

mutual

def preorderOf : SymbolTree → List SymbolTree
  | ⟨name, kind, range, none⟩ => [⟨name, kind, range, none⟩]
  | ⟨name, kind, range, some children⟩ => ⟨name, kind, range, some children⟩ :: preorder children

def preorder : List SymbolTree → List SymbolTree
  | [] => []
  | t :: rest => preorderOf t ++ preorder rest

end

theorem preorder_cons (t : SymbolTree) (rest : List SymbolTree) :
    preorder (t :: rest) = t :: (preorder t.inner ++ preorder rest) := by
  obtain ⟨name, kind, range, children⟩ := t
  cases children with
  | none => simp [preorder, preorderOf, inner]
  | some children => simp [preorder, preorderOf, inner]

theorem symbol_eq (t : SymbolTree) : t.symbol = ⟨t.name, t.kind, t.range, symbols t.inner⟩ := by
  obtain ⟨name, kind, range, children⟩ := t
  cases children with
  | none => rfl
  | some children => rfl

@[simp] theorem symbol_name (t : SymbolTree) : t.symbol.name = t.name := by rw [symbol_eq]

@[simp] theorem symbol_kind (t : SymbolTree) : t.symbol.kind = t.kind := by rw [symbol_eq]

@[simp] theorem symbol_range (t : SymbolTree) : t.symbol.range = t.range := by rw [symbol_eq]

@[simp] theorem symbol_children (t : SymbolTree) : t.symbol.children = symbols t.inner := by
  rw [symbol_eq]

section
variable {motive : List SymbolTree → Prop}

-- A list of children that is missing and one that is empty are the same to every statement
-- about forests, so the induction needs no case of its own for it.
mutual

theorem inner_induction (nil : motive [])
    (cons : ∀ t rest, motive t.inner → motive rest → motive (t :: rest)) :
    ∀ t : SymbolTree, motive t.inner
  | ⟨_, _, _, none⟩ => nil
  | ⟨_, _, _, some children⟩ => forest_induction nil cons children

theorem forest_induction (nil : motive [])
    (cons : ∀ t rest, motive t.inner → motive rest → motive (t :: rest)) :
    ∀ forest : List SymbolTree, motive forest
  | [] => nil
  | t :: rest => cons t rest (inner_induction nil cons t) (forest_induction nil cons rest)

end

end

def ChildrenWithin (forest : List SymbolTree) : Prop :=
  ∀ t ∈ preorder forest, ∀ child ∈ t.inner, child.range.Within t.range

theorem childrenWithin_cons_iff {t : SymbolTree} {rest : List SymbolTree} :
    ChildrenWithin (t :: rest) ↔
      (∀ child ∈ t.inner, child.range.Within t.range) ∧ ChildrenWithin t.inner ∧
        ChildrenWithin rest := by
  simp only [ChildrenWithin, preorder_cons, List.forall_mem_cons, List.forall_mem_append]

theorem within_of_mem_preorder {forest : List SymbolTree} {outer : Range}
    (hchildren : ChildrenWithin forest) (hroots : ∀ t ∈ forest, t.range.Within outer) :
    ∀ t ∈ preorder forest, t.range.Within outer := by
  induction forest using forest_induction with
  | nil => simp [preorder]
  | cons t rest inside beside =>
    obtain ⟨hinner, hdeep, hrest⟩ := childrenWithin_cons_iff.mp hchildren
    obtain ⟨ht, hothers⟩ := List.forall_mem_cons.mp hroots
    rw [preorder_cons, List.forall_mem_cons, List.forall_mem_append]
    exact ⟨ht, inside hdeep fun child hin => (hinner child hin).trans ht, beside hrest hothers⟩

theorem find?_preorder_inner_eq_none {t : SymbolTree} {wanted : Text} {kind : SymbolKind}
    {bound : Option Range} (hinner : ∀ child ∈ t.inner, child.range.Within t.range)
    (hdeep : ChildrenWithin t.inner) (hmeets : meets bound t.range = false) :
    (preorder t.inner).find? (fun d => isMatch wanted kind bound d.symbol) = none := by
  rw [List.find?_eq_none]
  intro d hd hmatch
  have hwithin := within_of_mem_preorder hdeep hinner d hd
  have hd' : meets bound d.range = true := by
    simpa using (Symbol.isMatch_iff.mp hmatch).2.2
  rw [Symbol.meets_of_within hwithin hd'] at hmeets
  cases hmeets

/-- Where children lie within their parents, the search finds the first match of all. -/
theorem find_symbols {forest : List SymbolTree} (h : ChildrenWithin forest) (wanted : Text)
    (kind : SymbolKind) (bound : Option Range) :
    find wanted kind bound (symbols forest) =
      ((preorder forest).find? fun t => isMatch wanted kind bound t.symbol).map symbol := by
  induction forest using forest_induction with
  | nil => rfl
  | cons t rest inside beside =>
    obtain ⟨hinner, hdeep, hrest⟩ := childrenWithin_cons_iff.mp h
    rw [symbols, preorder_cons]
    cases hmatch : isMatch wanted kind bound t.symbol with
    | true =>
      rw [Symbol.find_cons_of_match hmatch, List.find?_cons, hmatch]
      rfl
    | false =>
      rw [List.find?_cons_of_neg (by simpa using hmatch), List.find?_append, Option.map_or,
        ← beside hrest]
      cases hmeets : meets bound t.range with
      | true =>
        rw [Symbol.find_cons_of_meets (by simpa using hmeets) hmatch, symbol_children,
          inside hdeep]
      | false =>
        rw [Symbol.find_cons_of_not_meets (by simpa using hmeets),
          find?_preorder_inner_eq_none hinner hdeep hmeets]
        rfl

end SymbolTree

theorem SymbolEntry.find_map_symbol (wanted : Text) (kind : SymbolKind) (bound : Option Range)
    (entries : List SymbolEntry) :
    find wanted kind bound (entries.map symbol) =
      (entries.find? fun e => isMatch wanted kind bound e.symbol).map symbol := by
  induction entries with
  | nil => rfl
  | cons e rest ih =>
    rw [List.map_cons, List.find?_cons]
    cases hmatch : isMatch wanted kind bound e.symbol with
    | true => rw [Symbol.find_cons_of_match hmatch, Option.map_some]
    | false =>
      cases hmeets : meets bound e.symbol.range with
      | true =>
        rw [Symbol.find_cons_of_meets hmeets hmatch, ih]
        rfl
      | false => rw [Symbol.find_cons_of_not_meets hmeets, ih]

/-- An entry of a flat answer for a symbol of a nested one. The name may have a
qualifier in front. -/
structure Lists (t : SymbolTree) (e : SymbolEntry) : Prop where
  kind_eq : e.kind = t.kind
  range_eq : e.location.range = t.range
  name_eq : e.name = t.name ∨
    t.name.head? ≠ some ':' ∧ ∃ qualifier, e.name = qualifier ++ [':', ':'] ++ t.name

namespace Lists
variable {t : SymbolTree} {e : SymbolEntry}

theorem lastSegment_eq (h : Lists t e) : Text.lastSegment e.name = Text.lastSegment t.name := by
  rcases h.name_eq with hname | ⟨hcolon, qualifier, hname⟩
  · rw [hname]
  · rw [hname, Text.lastSegment_qualified hcolon]

theorem isMatch_eq (h : Lists t e) (wanted : Text) (kind : SymbolKind) (bound : Option Range) :
    isMatch wanted kind bound e.symbol = isMatch wanted kind bound t.symbol := by
  rw [Bool.eq_iff_iff, Symbol.isMatch_iff, Symbol.isMatch_iff]
  simp only [SymbolEntry.symbol, SymbolTree.symbol_name, SymbolTree.symbol_kind,
    SymbolTree.symbol_range, h.kind_eq, h.range_eq, h.lastSegment_eq]

theorem find?_eq {trees : List SymbolTree} {entries : List SymbolEntry}
    (h : List.Forall₂ Lists trees entries) (wanted : Text) (kind : SymbolKind)
    (bound : Option Range) :
    (trees.find? (fun t => isMatch wanted kind bound t.symbol) = none ∧
        entries.find? (fun e => isMatch wanted kind bound e.symbol) = none) ∨
      ∃ t e, trees.find? (fun t => isMatch wanted kind bound t.symbol) = some t ∧
        entries.find? (fun e => isMatch wanted kind bound e.symbol) = some e ∧ Lists t e := by
  induction h with
  | nil => exact .inl ⟨rfl, rfl⟩
  | @cons t e trees entries hte hrest ih =>
    rw [List.find?_cons, List.find?_cons, hte.isMatch_eq]
    cases isMatch wanted kind bound t.symbol with
    | true => exact .inr ⟨t, e, rfl, rfl, hte⟩
    | false => exact ih

end Lists

/-- A nested answer whose children lie within their parents, and a flat answer that lists
its symbols in order, lead the search to the same symbol or both to none. They lead to
one as soon as any symbol of the answer is called for and meets the bound. -/
theorem DocumentSymbols.find_nested_flat {forest : List SymbolTree} {entries : List SymbolEntry}
    (hwithin : SymbolTree.ChildrenWithin forest)
    (hlists : List.Forall₂ Lists (SymbolTree.preorder forest) entries)
    (wanted : Text) (kind : SymbolKind) (bound : Option Range) :
    let inNested := find wanted kind bound (nested forest).symbols
    let inFlat := find wanted kind bound (flat entries).symbols
    ((inNested = none ∧ inFlat = none) ∨
      ∃ s l, inNested = some s ∧ inFlat = some l ∧ l.kind = s.kind ∧ l.range = s.range ∧
        Text.lastSegment l.name = Text.lastSegment s.name) ∧
    (inNested.isSome = true ↔
      ∃ t ∈ SymbolTree.preorder forest, t.kind = kind ∧ Text.lastSegment t.name = wanted ∧
        meets bound t.range = true) := by
  intro inNested inFlat
  have hnested : inNested = _ := SymbolTree.find_symbols hwithin wanted kind bound
  have hflat : inFlat = _ := SymbolEntry.find_map_symbol wanted kind bound entries
  constructor
  · rcases Lists.find?_eq hlists wanted kind bound with ⟨ht, he⟩ | ⟨t, e, ht, he, hte⟩
    · rw [ht] at hnested
      rw [he] at hflat
      exact .inl ⟨hnested, hflat⟩
    · rw [ht] at hnested
      rw [he] at hflat
      refine .inr ⟨t.symbol, e.symbol, hnested, hflat, ?_, ?_, ?_⟩
      · simpa [SymbolEntry.symbol] using hte.kind_eq
      · simpa [SymbolEntry.symbol] using hte.range_eq
      · simpa [SymbolEntry.symbol] using hte.lastSegment_eq
  · rw [hnested, Option.isSome_map, List.find?_isSome]
    simp only [Symbol.isMatch_iff, SymbolTree.symbol_name, SymbolTree.symbol_kind,
      SymbolTree.symbol_range]

/-- An enumeration in a namespace, with its qualified name in the flat answer and a type
definition inside it as the bound: both searches find it. -/
theorem DocumentSymbols.find_nested_flat_qualified :
    let inside : Range := ⟨⟨2, 2⟩, ⟨4, 4⟩⟩
    let outside : Range := ⟨⟨0, 0⟩, ⟨9, 1⟩⟩
    let forest : List SymbolTree :=
      [⟨"gfx".toList, ⟨3⟩, outside, some [⟨"Color".toList, .enum, inside, none⟩]⟩]
    let entries : List SymbolEntry :=
      [⟨"gfx".toList, ⟨3⟩, ⟨default, outside⟩⟩, ⟨"gfx::Color".toList, .enum, ⟨default, inside⟩⟩]
    let bound : Option Range := some ⟨⟨2, 7⟩, ⟨2, 12⟩⟩
    SymbolTree.ChildrenWithin forest ∧
      List.Forall₂ Lists (SymbolTree.preorder forest) entries ∧
      ∃ s l, find "Color".toList .enum bound (nested forest).symbols = some s ∧
        find "Color".toList .enum bound (flat entries).symbols = some l ∧ l.kind = s.kind ∧
        l.range = s.range ∧ Text.lastSegment l.name = Text.lastSegment s.name := by
  intro inside outside forest entries bound
  have hwithin : SymbolTree.ChildrenWithin forest := by
    unfold SymbolTree.ChildrenWithin
    decide +kernel
  have hlists : List.Forall₂ Lists (SymbolTree.preorder forest) entries :=
    .cons ⟨rfl, rfl, .inl rfl⟩
      (.cons ⟨rfl, rfl, .inr ⟨by decide +kernel, "gfx".toList, by decide +kernel⟩⟩ .nil)
  obtain ⟨⟨hnone, -⟩ | hfound, hsome⟩ :=
    find_nested_flat hwithin hlists "Color".toList .enum bound
  · have hcolor := hsome.mpr ⟨⟨"Color".toList, .enum, inside, none⟩, .tail _ (.head _), rfl,
      by decide +kernel, by decide +kernel⟩
    rw [hnone] at hcolor
    cases hcolor
  · exact ⟨hwithin, hlists, hfound⟩

end Protocol
end CaseFill
