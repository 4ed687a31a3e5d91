import CaseFill.Json

/-! Decoding JSON values into records. A record is written as an object, whose
unknown members are ignored, or as the list of its fields in order, all of them
present. -/
namespace CaseFill.Json

abbrev Decoder (α : Type) := Json → Option α

namespace Decoder

variable {α β : Type}

def any : Decoder Json := some

def string : Decoder String
  | str s => some s
  | _ => none

def boolean : Decoder Bool
  | bool b => some b
  | _ => none

def between (low high : Int) : Decoder Int
  | int n => if low ≤ n ∧ n < high then some n else none
  | _ => none

def natBelow (bound : Nat) : Decoder Nat := fun v => (between 0 bound v).map Int.toNat

def nat32 : Decoder Nat := natBelow 0x100000000

def int32 : Decoder Int := between (-0x80000000) 0x80000000

def list (d : Decoder α) : Decoder (List α)
  | arr items => items.mapM d
  | _ => none

def nullable (d : Decoder α) : Decoder (Option α)
  | null => some none
  | v => (d v).map some

def orElse (d e : Decoder α) : Decoder α := fun v => (d v).or (e v)

/-- One of some names, written as a string or as an object that has the name for
its only member, with `null` for its value. -/
def oneOf (names : List String) : Decoder String
  | str s => if names.contains s then some s else none
  | obj [(s, null)] => if names.contains s then some s else none
  | _ => none

def checked (d : Decoder α) : Decoder Unit := fun v => (d v).map fun _ => ()

def either (d : Decoder α) (e : Decoder β) : Decoder Unit := orElse (checked d) (checked e)

def number : Decoder Unit
  | int _ => some ()
  | real _ _ => some ()
  | _ => none

def dictionary (key : Decoder α) (value : Decoder β) : Decoder Unit
  | obj members =>
    if members.all fun (k, v) => (key (str k)).isSome && (value v).isSome then some () else none
  | _ => none

inductive Fields where
  | named (members : List (String × Json))
  | listed (items : List Json)

abbrev Record (α : Type) := StateT Fields Option α

def field (name : String) (d : Decoder α) : Record α := fun fields =>
  match fields with
  | .named members => do return (← d (← members.lookup name), fields)
  | .listed (v :: rest) => do return (← d v, .listed rest)
  | .listed [] => none

/-- A field that may be missing from an object or be `null`. -/
def maybe (name : String) (d : Decoder α) : Record (Option α) := fun fields =>
  match fields with
  | .named members =>
    match members.lookup name with
    | none => some (none, fields)
    | some v => do return (← nullable d v, fields)
  | .listed (v :: rest) => do return (← nullable d v, .listed rest)
  | .listed [] => none

/-- A field with a value of its own for the case that it is missing; `null` is
not taken for missing. -/
def withDefault (name : String) (standard : α) (d : Decoder α) : Record α := fun fields =>
  match fields with
  | .named members =>
    match members.lookup name with
    | none => some (standard, fields)
    | some v => do return (← d v, fields)
  | .listed (v :: rest) => do return (← d v, .listed rest)
  | .listed [] => some (standard, .listed [])

def object (r : Record α) : Decoder α
  | obj members => (r (.named members)).map Prod.fst
  | _ => none

/-- Read a record from an object or from the list of its fields. -/
def record (r : Record α) : Decoder α
  | obj members => (r (.named members)).map Prod.fst
  | arr items =>
    match r (.listed items) with
    | some (a, .listed []) => some a
    | _ => none
  | _ => none

/-! ### Records that are only checked -/

def requires (name : String) (d : Decoder α) : Record Unit := do
  let _ ← field name d
  return ()

def allows (name : String) (d : Decoder α) : Record Unit := do
  let _ ← maybe name d
  return ()

/-- A field that may be `null` or missing, also at the end of a list. -/
def defaults (name : String) (d : Decoder α) : Record Unit :=
  withDefault name () (checked (nullable d))

def form (fields : List (Record Unit)) : Decoder Unit := record (fields.forM id)

/-- A record with these fields and those of other records, which is always an
object. -/
def merged (fields : List (Record Unit)) : Decoder Unit := object (fields.forM id)

end Decoder

mutual

def depth : Json → Nat
  | arr items => itemsDepth items + 1
  | obj members => membersDepth members + 1
  | _ => 1

def itemsDepth : List Json → Nat
  | [] => 0
  | v :: rest => max (depth v) (itemsDepth rest)

def membersDepth : List (String × Json) → Nat
  | [] => 0
  | (_, v) :: rest => max (depth v) (membersDepth rest)

end

end CaseFill.Json
