import CaseFill.Toml

/-! How the tables of a TOML document are put together. A table can be opened by
a header only once, a key can be set only once, and a value written inline is
closed. -/
namespace CaseFill.Toml

inductive Origin where
  /-- As the parent of a table with a header. -/
  | implied
  | header
  | dotted
deriving DecidableEq, Repr

inductive Node where
  | leaf (value : Toml)
  | table (origin : Origin) (entries : List (String × Node))
  | series (tables : List (List (String × Node)))
deriving Inhabited

abbrev Entries := List (String × Node)

namespace Entries

def replace (key : String) (node : Node) (entries : Entries) : Entries :=
  entries.map fun (k, n) => if k = key then (k, node) else (k, n)

def changeLast (f : Entries → Option Entries) : List Entries → Option (List Entries)
  | [] => none
  | [t] => (f t).map ([·])
  | t :: rest => (changeLast f rest).map (t :: ·)

/-- Whether a dotted key may pass through a table of this origin with `keys`
still to come: a table with a header of its own is closed to dotted keys, and the
table that takes the value has to come from dotted keys itself. -/
def passable (keys : List String) : Origin → Bool
  | .header => false
  | .implied => decide (1 < keys.length)
  | .dotted => true

/-- Set a dotted key. A series on its way stands for its last table, which does
not take the value itself. -/
def set (value : Toml) : List String → Entries → Option Entries
  | [], _ => none
  | [key], entries =>
    match entries.lookup key with
    | some _ => none
    | none => some (entries ++ [(key, .leaf value)])
  | key :: keys, entries =>
    match entries.lookup key with
    | none => (set value keys []).map fun sub => entries ++ [(key, .table .dotted sub)]
    | some (.table origin sub) =>
      if passable keys origin then
        (set value keys sub).map fun sub => replace key (.table origin sub) entries
      else none
    | some (.series tables) =>
      if passable keys .implied then
        (changeLast (set value keys) tables).map fun tables => replace key (.series tables) entries
      else none
    | some (.leaf _) => none

/-- Change the table at a path; a series stands for its last table, and missing
tables are implied. -/
def change (f : Entries → Option Entries) : List String → Entries → Option Entries
  | [], entries => f entries
  | key :: keys, entries =>
    match entries.lookup key with
    | none => (change f keys []).map fun sub => entries ++ [(key, .table .implied sub)]
    | some (.table origin sub) =>
      (change f keys sub).map fun sub => replace key (.table origin sub) entries
    | some (.series tables) =>
      (changeLast (change f keys) tables).map fun tables => replace key (.series tables) entries
    | some (.leaf _) => none

/-- Open the table called `key`, which no header and no dotted key may have made
before. -/
def openTable (key : String) (entries : Entries) : Option Entries :=
  match entries.lookup key with
  | none => some (entries ++ [(key, .table .header [])])
  | some (.table .implied sub) => some (replace key (.table .header sub) entries)
  | some _ => none

def openSeries (key : String) (entries : Entries) : Option Entries :=
  match entries.lookup key with
  | none => some (entries ++ [(key, .series [[]])])
  | some (.series tables) => some (replace key (.series (tables ++ [[]])) entries)
  | some _ => none

end Entries

mutual

def Node.value : Node → Toml
  | .leaf v => v
  | .table _ entries => Toml.table (entriesValue entries)
  | .series tables => array (seriesValue tables)

def entriesValue : List (String × Node) → List (String × Toml)
  | [] => []
  | (k, n) :: rest => (k, n.value) :: entriesValue rest

def seriesValue : List (List (String × Node)) → List Toml
  | [] => []
  | t :: rest => Toml.table (entriesValue t) :: seriesValue rest

end

end CaseFill.Toml
