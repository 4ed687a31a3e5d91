/-! Values of a TOML document. -/
namespace CaseFill

/-- A TOML value. Reals, dates and times are kept as written. -/
inductive Toml where
  | string (s : String)
  | integer (n : Int)
  | real (text : String)
  | boolean (b : Bool)
  | dateTime (text : String)
  | array (items : List Toml)
  | table (entries : List (String × Toml))
deriving Inhabited, Repr

namespace Toml

def get? (key : String) : Toml → Option Toml
  | table entries => entries.lookup key
  | _ => none

def asString? : Toml → Option String
  | string s => some s
  | _ => none

def asStrings? : Toml → Option (List String)
  | array items => items.mapM asString?
  | _ => none

def asNatBelow? (bound : Nat) : Toml → Option Nat
  | integer n => if 0 ≤ n ∧ n < bound then some n.toNat else none
  | _ => none

end Toml
end CaseFill
