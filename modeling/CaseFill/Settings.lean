import CaseFill.Text.Character
import CaseFill.Uri

/-! The settings of the server. -/
namespace CaseFill

structure Settings where
  languageIds : List String
  /-- File extensions that mean C++ when the language id is not known. -/
  fileExtensions : List String
  maxSweepPositions : Nat
  actionTitle : String
deriving DecidableEq, Repr, Inhabited

namespace Settings

def standard : Settings where
  languageIds := ["cpp"]
  fileExtensions := ["cpp", "cc", "cxx", "c++", "hpp", "hh", "hxx", "h", "inl"]
  maxSweepPositions := 512
  actionTitle := "Generate Switch For Enums"

def sameIgnoringCase (a b : Text) : Bool := a.map Char.toLower == b.map Char.toLower

/-- Whether a document is C++: by its language id, or by the extension of its
path when the id is not known. -/
def isCpp (languageIds fileExtensions : List String) (uri : Uri) (languageId : Option String) :
    Bool :=
  match languageId with
  | some id => languageIds.contains id
  | none => uri.extension?.any fun ext => fileExtensions.any (sameIgnoringCase ·.toList ext)

end Settings
end CaseFill
