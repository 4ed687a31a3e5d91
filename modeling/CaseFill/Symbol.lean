import CaseFill.Position
import CaseFill.Text.Search

/-! The symbol tree of a document, and the search for a declaration in it. With
a bound the search stays inside the subtrees whose ranges meet it. -/
namespace CaseFill

structure SymbolKind where
  code : Int
deriving DecidableEq, Repr, Inhabited

namespace SymbolKind

def enum : SymbolKind := ⟨10⟩

end SymbolKind

structure Symbol where
  /-- The name as the editor reports it; it may be qualified. -/
  name : Text
  kind : SymbolKind
  range : Range
  children : List Symbol
deriving Inhabited, Repr

namespace Symbol

/-- Whether a symbol of this name and kind is the one looked for. Only the last
segment of a qualified name counts. -/
def isCalled (wanted : Text) (kind : SymbolKind) (s : Symbol) : Bool :=
  decide (s.kind = kind) && decide (Text.lastSegment s.name = wanted)

def meets (bound : Option Range) (range : Range) : Bool :=
  bound.all fun b => range.intersects b

mutual

/-- Search one symbol and, if it is not the one, what it contains. A symbol
outside the bound is passed over with all it contains. -/
def findIn (wanted : Text) (kind : SymbolKind) (bound : Option Range) : Symbol → Option Symbol
  | ⟨name, k, range, children⟩ =>
    if meets bound range then
      if isCalled wanted kind ⟨name, k, range, children⟩ then some ⟨name, k, range, children⟩
      else find wanted kind bound children
    else none

/-- The first symbol of the given name and kind, parents before children and
siblings from left to right. -/
def find (wanted : Text) (kind : SymbolKind) (bound : Option Range) : List Symbol → Option Symbol
  | [] => none
  | s :: rest =>
    match findIn wanted kind bound s with
    | some found => some found
    | none => find wanted kind bound rest

end

end Symbol
end CaseFill
