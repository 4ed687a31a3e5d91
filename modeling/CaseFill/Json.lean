/-! JSON values. Whole numbers are kept exactly; a number written with a
fraction or an exponent, or beyond the range of 64-bit integers, is a real
number and is never taken for a whole one. -/
namespace CaseFill

/-- A JSON value. The members of an object keep their order. -/
inductive Json where
  | null
  | bool (b : Bool)
  | int (n : Int)
  | real (mantissa : Int) (exponent : Int)
  | str (s : String)
  | arr (items : List Json)
  | obj (members : List (String × Json))
deriving Inhabited, Repr, BEq

namespace Json

/-- Put a member into a list of members. A later value for a name that is
already there takes its place. -/
def insertMember (key : String) (value : Json) : List (String × Json) → List (String × Json)
  | [] => [(key, value)]
  | (k, v) :: rest =>
    if k = key then (key, value) :: rest else (k, v) :: insertMember key value rest

def get? (key : String) : Json → Option Json
  | obj members => members.lookup key
  | _ => none

/-- The whole numbers that are kept exactly: from the least signed to the
greatest unsigned 64-bit integer. -/
def isWordSized (n : Int) : Bool := decide (-0x8000000000000000 ≤ n) && decide (n < 0x10000000000000000)

def strings (ss : List String) : Json := arr (ss.map str)

def optStr : Option String → Json
  | some s => str s
  | none => null

end Json
end CaseFill
