import CaseFill.Text.Character

/-! The open documents, as last synchronised by the client. -/
namespace CaseFill

/-- An open document. The language id is known once the client opened it. -/
structure Document where
  languageId : Option String
  text : Text
deriving DecidableEq, Repr, Inhabited

/-- The open documents by the text of their identifiers; no identifier occurs
twice. -/
structure Documents where
  entries : List (String × Document)
deriving Repr

namespace Documents

def empty : Documents := ⟨[]⟩

def get? (docs : Documents) (uri : String) : Option Document := docs.entries.lookup uri

def erase (docs : Documents) (uri : String) : Documents :=
  ⟨docs.entries.filter fun e => decide (e.1 ≠ uri)⟩

def insert (docs : Documents) (uri : String) (doc : Document) : Documents :=
  ⟨(uri, doc) :: (docs.erase uri).entries⟩

@[simp] theorem get?_empty (uri : String) : empty.get? uri = none := rfl

@[simp] theorem get?_erase_self (docs : Documents) (uri : String) :
    (docs.erase uri).get? uri = none := by
  simp only [get?, erase, List.lookup_eq_none_iff, List.mem_filter, decide_eq_true_eq]
  rintro e ⟨-, he⟩
  simpa using Ne.symm he

theorem get?_erase_of_ne (docs : Documents) {uri other : String} (h : other ≠ uri) :
    (docs.erase uri).get? other = docs.get? other := by
  obtain ⟨entries⟩ := docs
  simp only [get?, erase]
  induction entries with
  | nil => rfl
  | cons e rest ih =>
    obtain ⟨name, doc⟩ := e
    by_cases hn : name = uri
    · have hb : (other == name) = false := by simpa [hn] using h
      rw [List.filter_cons_of_neg (by simpa using hn), List.lookup_cons, hb]
      exact ih
    · rw [List.filter_cons_of_pos (by simpa using hn), List.lookup_cons, List.lookup_cons, ih]

@[simp] theorem get?_insert_self (docs : Documents) (uri : String) (doc : Document) :
    (docs.insert uri doc).get? uri = some doc := by
  simp [get?, insert]

theorem get?_insert_of_ne (docs : Documents) {uri other : String} (doc : Document)
    (h : other ≠ uri) : (docs.insert uri doc).get? other = docs.get? other := by
  have hb : (other == uri) = false := by simpa using h
  have he := get?_erase_of_ne docs h
  simp only [get?] at he
  simp [get?, insert, List.lookup_cons, hb, he]

def setText (docs : Documents) (uri : String) (text : Text) : Documents :=
  docs.insert uri ⟨(docs.get? uri).bind Document.languageId, text⟩

/-- Take over a list of whole texts, of which the last one counts. -/
def change (docs : Documents) (uri : String) (texts : List Text) : Documents :=
  match texts.getLast? with
  | some text => docs.setText uri text
  | none => docs

end Documents
end CaseFill
