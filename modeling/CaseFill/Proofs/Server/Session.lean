import CaseFill.Proofs.Resolve.Trace
import CaseFill.Server
import Mathlib.Data.List.DropRight

/-! Whole sessions. A session is a list of messages in any order, with the files as they
are at each of them. Main statement: the open document of a name is determined by the
messages about that name since it was last closed, and the editor is only asked about a
document that is open, is C++ and has the keyword on the line of the request. -/
namespace CaseFill
open Dialogue (Course)

namespace ClientMessage
variable (name : String)

def text? : ClientMessage → Option Text
  | .opened uri _ text => if uri.text = name then some text else none
  | .changed uri texts => if uri.text = name then texts.getLast? else none
  | _ => none

def languageId? : ClientMessage → Option String
  | .opened uri languageId _ => if uri.text = name then some languageId else none
  | _ => none

def closes : ClientMessage → Bool
  | .closed uri => decide (uri.text = name)
  | _ => false

def concerns : ClientMessage → Bool
  | .opened uri _ _ => decide (uri.text = name)
  | .changed uri _ => decide (uri.text = name)
  | .closed uri => decide (uri.text = name)
  | _ => false

def advance (doc : Option Document) (m : ClientMessage) : Option Document :=
  if m.closes name then none
  else match m.text? name with
    | some text => some ⟨(m.languageId? name).or (doc.bind Document.languageId), text⟩
    | none => doc

variable {name} {m : ClientMessage}

theorem languageId?_of_text? (h : m.text? name = none) : m.languageId? name = none := by
  cases m with
  | opened uri languageId text =>
    by_cases hname : uri.text = name
    · simp [text?, hname] at h
    · simp [languageId?, hname]
  | _ => rfl

theorem advance_of_not_concerns (h : m.concerns name = false) (doc : Option Document) :
    m.advance name doc = doc := by
  cases m with
  | opened uri _ _ | changed uri _ | closed uri =>
    have hname : uri.text ≠ name := by simpa [concerns] using h
    simp [advance, text?, closes, hname]
  | _ => rfl

end ClientMessage

/-! ### The document that a history leaves -/

namespace History
open ClientMessage (text? languageId? closes concerns advance)
variable {β : Type} {name : String} {history : List ClientMessage} {m : ClientMessage}

def sinceClosed (name : String) (history : List ClientMessage) : List ClientMessage :=
  history.rtakeWhile fun m => !m.closes name

def lastGiven (name : String) (give : ClientMessage → Option β) (history : List ClientMessage) :
    Option β :=
  ((sinceClosed name history).filterMap give).getLast?

/-- The document that a history leaves under a name: the text that was given last, with
the language id that was given last. Both are forgotten when the document is closed. -/
def document? (name : String) (history : List ClientMessage) : Option Document :=
  (lastGiven name (text? name) history).map fun text =>
    ⟨lastGiven name (languageId? name) history, text⟩

theorem lastGiven_concat_of_closes (h : m.closes name = true) (give : ClientMessage → Option β) :
    lastGiven name give (history ++ [m]) = none := by
  simp [lastGiven, sinceClosed, h]

theorem lastGiven_concat (h : m.closes name = false) (give : ClientMessage → Option β) :
    lastGiven name give (history ++ [m]) = (give m).or (lastGiven name give history) := by
  have hsince : sinceClosed name (history ++ [m]) = sinceClosed name history ++ [m] := by
    simp [sinceClosed, h]
  rw [lastGiven, hsince, List.filterMap_append, List.getLast?_append, lastGiven]
  cases hgive : give m with
  | none => simp [hgive]
  | some b => simp [hgive]

theorem bind_languageId_document? :
    (document? name history).bind Document.languageId =
      lastGiven name (languageId? name) history := by
  cases htext : lastGiven name (text? name) history with
  | some text => simp [document?, htext]
  | none =>
    have hnone : (sinceClosed name history).filterMap (languageId? name) = [] := by
      rw [lastGiven, List.getLast?_eq_none_iff, List.filterMap_eq_nil_iff] at htext
      rw [List.filterMap_eq_nil_iff]
      exact fun m hm => ClientMessage.languageId?_of_text? (htext m hm)
    rw [document?, htext, lastGiven, hnone]
    rfl

theorem document?_concat :
    document? name (history ++ [m]) = m.advance name (document? name history) := by
  cases hclose : m.closes name with
  | true => simp [document?, advance, hclose, lastGiven_concat_of_closes]
  | false =>
    have hadvance : ∀ doc, m.advance name doc = match m.text? name with
        | some text => some ⟨(m.languageId? name).or (doc.bind Document.languageId), text⟩
        | none => doc := by
      intro doc
      simp [advance, hclose]
    rw [hadvance, bind_languageId_document?, document?, lastGiven_concat hclose,
      lastGiven_concat hclose]
    cases htext : m.text? name with
    | some text => rfl
    | none =>
      rw [ClientMessage.languageId?_of_text? htext]
      rfl

/-- Messages about other names, and requests, leave no trace. -/
theorem document?_filter_concerns (name : String) (history : List ClientMessage) :
    document? name (history.filter (concerns name)) = document? name history := by
  induction history using List.reverseRecOn with
  | nil => rfl
  | append_singleton history m ih =>
    rw [List.filter_append, document?_concat]
    cases hconcerns : m.concerns name with
    | true => rw [List.filter_singleton, hconcerns, cond_true, document?_concat, ih]
    | false =>
      rw [List.filter_singleton, hconcerns, cond_false, List.append_nil, ih,
        ClientMessage.advance_of_not_concerns hconcerns]

end History

/-! ### The documents of a server -/

namespace Documents

def receive (docs : Documents) : ClientMessage → Documents
  | .opened uri languageId text => docs.insert uri.text ⟨some languageId, text⟩
  | .changed uri texts => docs.change uri.text texts
  | .closed uri => docs.erase uri.text
  | _ => docs

theorem get?_change (docs : Documents) (uri name : String) (texts : List Text) :
    (docs.change uri texts).get? name =
      if uri = name then
        match texts.getLast? with
        | some text => some ⟨(docs.get? name).bind Document.languageId, text⟩
        | none => docs.get? name
      else docs.get? name := by
  unfold change
  cases texts.getLast? with
  | none => simp
  | some text =>
    by_cases hname : uri = name
    · subst hname
      simp [setText]
    · simp [setText, hname, get?_insert_of_ne _ _ (Ne.symm hname)]

theorem get?_receive (docs : Documents) (m : ClientMessage) (name : String) :
    (docs.receive m).get? name = m.advance name (docs.get? name) := by
  cases m with
  | opened uri languageId text =>
    by_cases hname : uri.text = name
    · subst hname
      simp [receive, ClientMessage.advance, ClientMessage.closes, ClientMessage.text?,
        ClientMessage.languageId?]
    · simp [receive, ClientMessage.advance, ClientMessage.closes, ClientMessage.text?, hname,
        get?_insert_of_ne _ _ (Ne.symm hname)]
  | changed uri texts =>
    rw [receive, get?_change]
    by_cases hname : uri.text = name
    · simp [ClientMessage.advance, ClientMessage.closes, ClientMessage.text?,
        ClientMessage.languageId?, hname]
    · simp [ClientMessage.advance, ClientMessage.closes, ClientMessage.text?, hname]
  | closed uri =>
    by_cases hname : uri.text = name
    · subst hname
      simp [receive, ClientMessage.advance, ClientMessage.closes]
    · simp [receive, ClientMessage.advance, ClientMessage.closes, ClientMessage.text?, hname,
        get?_erase_of_ne _ (Ne.symm hname)]
  | _ => rfl

theorem get?_foldl_receive (name : String) (history : List ClientMessage) :
    (history.foldl receive empty).get? name = History.document? name history := by
  induction history using List.reverseRecOn with
  | nil => rfl
  | append_singleton history m ih =>
    rw [List.foldl_append, List.foldl_cons, List.foldl_nil, get?_receive, ih,
      History.document?_concat]

end Documents

namespace Uri

theorem exists_of_extension? {uri : Uri} {ext : List Char} (h : uri.extension? = some ext) :
    ∃ front, uri.path.text.toList = front ++ '.' :: ext ∧ '.' ∉ ext := by
  unfold extension? at h
  generalize uri.path.text.toList = path at h ⊢
  dsimp only at h
  split at h
  · next hdot =>
    cases h
    have hin : '.' ∈ path.reverse := by simpa using hdot
    -- read backwards, the path is the extension up to the dot that comes first
    obtain ⟨rest, hrest⟩ : ∃ rest, path.reverse.dropWhile (· ≠ '.') = '.' :: rest := by
      cases hdrop : path.reverse.dropWhile (· ≠ '.') with
      | nil =>
        rw [List.dropWhile_eq_nil_iff] at hdrop
        simpa using hdrop '.' hin
      | cons c rest =>
        have hhead := List.head?_dropWhile_not (· ≠ '.') path.reverse
        rw [hdrop] at hhead
        obtain rfl : c = '.' := by simpa using hhead
        exact ⟨rest, rfl⟩
    have hsplit := List.takeWhile_append_dropWhile (p := (· ≠ '.')) (l := path.reverse)
    rw [hrest] at hsplit
    refine ⟨rest.reverse, ?_, ?_⟩
    · have hpath := congrArg List.reverse hsplit
      simpa using hpath.symm
    · intro hdot
      have hne := List.mem_takeWhile_imp (List.mem_reverse.mp hdot)
      simp at hne
  · cases h

end Uri

namespace Server
variable {s : Server} {events : List Event}

structure MayAsk (settings : Settings) (uri : Uri) (requested : Range) (doc : Document) :
    Prop where
  language : ∀ id, doc.languageId = some id → id ∈ settings.languageIds
  /-- Else the path ends in an extension of the settings, up to the case of letters. -/
  extension : doc.languageId = none → ∃ front ext, uri.path.text.toList = front ++ '.' :: ext ∧
    '.' ∉ ext ∧ ∃ known ∈ settings.fileExtensions,
      known.toList.map Char.toLower = ext.map Char.toLower
  keyword : ∃ line,
    Text.line? doc.text (Resolve.headerRange doc.text requested).start.line = some line ∧
      switchKeyword <:+: line

theorem mayAsk_of_gates {uri : Uri} {requested : Range} {doc : Document}
    (hcpp : s.isCpp uri doc = true)
    (hkeyword : Resolve.hasKeyword doc.text (Resolve.headerRange doc.text requested) = true) :
    MayAsk s.settings uri requested doc := by
  obtain ⟨languageId, text⟩ := doc
  refine ⟨?_, ?_, Resolve.hasKeyword_iff.mp hkeyword⟩
  · rintro id rfl
    simpa [isCpp, Settings.isCpp] using hcpp
  · rintro rfl
    simp only [isCpp, Settings.isCpp, Option.any_eq_true] at hcpp
    obtain ⟨ext, hext, hknown⟩ := hcpp
    obtain ⟨front, hpath, hdot⟩ := Uri.exists_of_extension? hext
    obtain ⟨known, hin, hsame⟩ := List.any_eq_true.mp hknown
    exact ⟨front, ext, hpath, hdot, known, hin, by simpa [Settings.sameIgnoringCase] using hsame⟩

theorem exists_mayAsk_of_codeAction {uri : Uri} {requested : Range} {response : Response}
    (h : Course (s.codeAction uri requested) events response) (hasked : events ≠ []) :
    ∃ doc, s.documents.get? uri.text = some doc ∧ MayAsk s.settings uri requested doc := by
  unfold codeAction at h
  cases hdoc : s.documents.get? uri.text with
  | none =>
    rw [hdoc] at h
    exact absurd h.1 hasked
  | some doc =>
    rw [hdoc] at h
    dsimp only at h
    split at h
    · next hgates =>
      simp only [Bool.and_eq_true] at hgates
      exact ⟨doc, rfl, mayAsk_of_gates hgates.1.1 hgates.1.2⟩
    · exact absurd h.1 hasked

theorem server_of_command {name : String} {arguments : List Json} {effect : Effect}
    (h : Course (s.command name arguments) events effect) : effect.server = s := by
  unfold command at h
  split at h
  · obtain ⟨outcome, first, second, rfl, -, hrest⟩ := Dialogue.course_bind_iff.mp h
    split at hrest
    · rw [hrest.2]
    · rw [hrest.2]
      rfl
  · rw [h.2]
    rfl

/-- Of all messages only those about documents change the open documents. -/
theorem documents_of_handle {read : Path → FileRead} {m : ClientMessage} {effect : Effect}
    (h : Course (s.handle read m) events effect) :
    effect.server.documents = s.documents.receive m := by
  cases m with
  | codeAction uri range =>
    obtain ⟨response, first, second, rfl, -, -, rfl⟩ := Dialogue.course_bind_iff.mp h
    rfl
  | command name arguments =>
    rw [server_of_command h]
    rfl
  | _ =>
    rw [h.2]
    rfl

structure Step where
  message : ClientMessage
  read : Path → FileRead

def session (s : Server) : List Step → Dialogue Server
  | [] => return s
  | step :: rest => do
    let effect ← s.handle step.read step.message
    effect.server.session rest

theorem documents_of_session {steps : List Step} {after : Server}
    (h : Course (s.session steps) events after) :
    after.documents = (steps.map Step.message).foldl Documents.receive s.documents := by
  induction steps generalizing s events with
  | nil =>
    rw [h.2]
    rfl
  | cons step rest ih =>
    obtain ⟨effect, first, second, rfl, hstep, hrest⟩ := Dialogue.course_bind_iff.mp h
    rw [ih hrest, documents_of_handle hstep]
    rfl

/-- After any session the document of a name is the one that the messages about that
name leave since it was last closed; other messages have no part in it. A request for
quick fixes then makes no call unless that document may be asked about. -/
theorem documents_after_session (explicitFile userFile : Option Path) (hasHost : Bool)
    (editor : Editor) (steps : List Step) :
    let after := (editor.converse ((fresh explicitFile userFile hasHost).session steps)).1
    let history := steps.map Step.message
    (∀ name, after.documents.get? name = History.document? name history ∧
      after.documents.get? name =
        History.document? name (history.filter (ClientMessage.concerns name))) ∧
    ∀ (later : Editor) (read : Path → FileRead) (uri : Uri) (requested : Range),
      (later.converse (after.handle read (.codeAction uri requested))).2 ≠ [] →
      ∃ doc, History.document? uri.text history = some doc ∧
        MayAsk after.settings uri requested doc := by
  intro after history
  have hget : ∀ name, after.documents.get? name = History.document? name history := by
    intro name
    rw [documents_of_session (editor.course_converse _)]
    exact Documents.get?_foldl_receive name history
  refine ⟨fun name => ⟨hget name, ?_⟩, ?_⟩
  · rw [History.document?_filter_concerns, hget]
  · intro later read uri requested hasked
    obtain ⟨response, first, second, hevents, hfirst, rfl, -⟩ :=
      Dialogue.course_bind_iff.mp
        (later.course_converse (after.handle read (.codeAction uri requested)))
    rw [hevents, List.append_nil] at hasked
    rw [← hget]
    exact exists_mayAsk_of_codeAction hfirst hasked

/-- A document that is closed and then changed without being opened again has no language
id. Its extension lets the editor be asked. -/
theorem documents_after_session_closed :
    let uri : Uri := ⟨"file", some ⟨"", "", none⟩, .segments ["paint.CPP"], none, none⟩
    let other : Uri := ⟨"file", some ⟨"", "", none⟩, .segments ["notes.txt"], none, none⟩
    let editor := Editor.knowing ⟨0, 8⟩ ⟨uri, ⟨⟨9, 6⟩, ⟨9, 7⟩⟩⟩ "Color c".toList
      [⟨"Color".toList, .enum, ⟨⟨8, 0⟩, ⟨8, 20⟩⟩, []⟩] ["Red".toList]
    let read : Path → FileRead := fun _ => .missing
    let history : List ClientMessage := [.opened uri "c" "a".toList, .closed uri,
      .changed uri ["b".toList, "switch (c)".toList], .opened other "cpp" "d".toList,
      .changed uri []]
    let after := (editor.converse ((fresh none none true).session (history.map (⟨·, read⟩)))).1
    let asked := (editor.converse
      (after.handle read (.codeAction uri ⟨⟨0, 3⟩, ⟨0, 3⟩⟩))).2
    after.documents.get? uri.text = some ⟨none, "switch (c)".toList⟩ ∧ asked ≠ [] ∧
      ∃ doc, History.document? uri.text history = some doc ∧
        MayAsk after.settings uri ⟨⟨0, 3⟩, ⟨0, 3⟩⟩ doc := by
  intro uri other editor read history after asked
  have hasked : asked ≠ [] := List.ne_nil_of_length_pos (by decide +kernel)
  obtain ⟨hdocuments, hmayAsk⟩ :=
    documents_after_session none none true editor (history.map (⟨·, read⟩))
  have hleft : History.document? uri.text history = some ⟨none, "switch (c)".toList⟩ := by
    decide +kernel
  exact ⟨(hdocuments uri.text).1.trans hleft, hasked, hmayAsk editor read uri _ hasked⟩

end Server
end CaseFill
