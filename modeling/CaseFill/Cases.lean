import CaseFill.Closing

/-! The text of the cases. -/
namespace CaseFill

namespace Cases

def label (enumName : Text) : Text := "case ".toList ++ enumName ++ [':', ':']

theorem newline_notMem_label {enumName : Text} (h : '\n' ∉ enumName) : '\n' ∉ label enumName := by
  intro hm
  rcases List.mem_append.mp hm with hm | hm
  · rcases List.mem_append.mp hm with hm | hm
    · exact absurd hm (by decide)
    · exact h hm
  · exact absurd hm (by decide)

/-- The provisional text that makes the editor offer the members. -/
def template (enumName : Text) : Text := '\n' :: label enumName

def addMember (members : List Text) (label : Text) : List Text :=
  let member := Text.trim label
  if member.isEmpty || members.contains member then members else members ++ [member]

def distinctMembers (labels : List Text) : List Text := labels.foldl addMember []

def caseEnd : Text := ":\nbreak;".toList

/-- The text that goes right after the provisional label: its member first, then
a case for every other member, then the closing. -/
def block (enumName : Text) (members : List Text) (closing : Closing) : Text :=
  (match members with
    | [] => []
    | first :: others =>
      first ++ caseEnd ++ others.flatMap fun m => template enumName ++ m ++ caseEnd) ++ closing.text

end Cases
end CaseFill
