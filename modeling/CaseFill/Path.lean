/-! Paths of the file system. A path is a string of bytes, which need not be
text. -/
namespace CaseFill

structure Path where
  bytes : List UInt8
deriving DecidableEq, Repr, Inhabited

namespace Path

def ofString (s : String) : Path := ⟨s.toUTF8.toList⟩

def text? (p : Path) : Option String := String.fromUTF8? ⟨p.bytes.toArray⟩

def slash : UInt8 := 0x2F

def pieces (p : Path) : List (List UInt8) := p.bytes.splitOn slash

def isAbsolute (p : Path) : Bool := p.bytes.head? == some slash

def join (directory : Path) (name : String) : Path :=
  let under := if directory.bytes = [] ∨ directory.bytes.getLast? = some slash then []
    else [slash]
  ⟨directory.bytes ++ under ++ (ofString name).bytes⟩

end Path
end CaseFill
