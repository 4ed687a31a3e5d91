import CaseFill.Proofs.Server.Session

/-! The settings in effect. They come from the client's options as a whole, else from one
file, else they are the standard ones. Main statement: once a session has begun, and whatever
follows, its settings are those of the first source that counts. A file counts unless reading
it reports it as missing; one that counts and cannot be used gives way to the standard settings
and to no other file. -/
namespace CaseFill
open Dialogue (Course)

namespace FileRead

def isMissing (found : FileRead) : Bool := found == .missing

/-- Whether there is no file at the path: it is missing, or the path leads through something
that is no directory, or no file can have such a name. -/
def isAbsent : FileRead → Bool
  | .missing | .failed .notDirectory | .failed .badName | .failed .nameTooLong => true
  | _ => false

theorem isMissing_iff {found : FileRead} : found.isMissing = true ↔ found = .missing := beq_iff_eq

theorem isAbsent_of_isMissing {found : FileRead} (h : found.isMissing = true) :
    found.isAbsent = true := by
  rw [isMissing_iff.mp h]
  rfl

end FileRead

namespace Settings
open FileRead (isMissing isAbsent isMissing_iff)
variable {read : Path → FileRead} {options : Option Json}

def decoded? : FileRead → Option Settings
  | .content text => (Toml.parse? text).bind ofTable?
  | _ => none

/-- The settings come from the first of their sources: from the options, else from the first
file that is not passed over, else from nowhere. -/
structure Precedence (passedOver : FileRead → Bool) (read : Path → FileRead) (files : List Path)
    (options : Option Json) (settings : Settings) : Prop where
  of_options : ∀ s, options.bind ofOptions? = some s → settings = s
  /-- Whether the first file can be used or not, no file behind it has a part in this. -/
  of_first : options.bind ofOptions? = none → ∀ before file behind,
    files = before ++ file :: behind → (∀ f ∈ before, passedOver (read f) = true) →
    passedOver (read file) = false → settings = (decoded? (read file)).getD standard
  of_none : options.bind ofOptions? = none → (∀ f ∈ files, passedOver (read f) = true) →
    settings = standard

theorem firstOf_append {before : List Path} (h : ∀ f ∈ before, (read f).isMissing = true)
    (rest : List Path) : firstOf read (before ++ rest) = firstOf read rest := by
  induction before with
  | nil => rfl
  | cons file before ih =>
    obtain ⟨hfile, hbefore⟩ := List.forall_mem_cons.mp h
    rw [List.cons_append, firstOf, isMissing_iff.mp hfile]
    exact ih hbefore

theorem effective_of_options {s : Settings} (h : options.bind ofOptions? = some s)
    (files : Except SettingsError Settings) : effective files options = s := by
  unfold effective
  rw [h]

theorem effective_firstOf_nil (h : options.bind ofOptions? = none) :
    effective (firstOf read []) options = standard := by
  unfold effective
  rw [h]
  rfl

theorem effective_firstOf_cons (h : options.bind ofOptions? = none) {file : Path}
    (hfile : (read file).isMissing = false) (rest : List Path) :
    effective (firstOf read (file :: rest)) options = (decoded? (read file)).getD standard := by
  unfold effective
  rw [h, firstOf]
  cases hread : read file with
  | missing => simp [hread, isMissing] at hfile
  | failed why => rfl
  | content text =>
    simp only [ofRead, decoded?]
    cases (Toml.parse? text).bind ofTable? with
    | none => rfl
    | some s => rfl

theorem precedence_effective (read : Path → FileRead) (files : List Path)
    (options : Option Json) :
    Precedence isMissing read files options (effective (firstOf read files) options) where
  of_options := fun s hs => effective_of_options hs _
  of_first := by
    rintro hoptions before file behind rfl hbefore hfile
    rw [firstOf_append hbefore, effective_firstOf_cons hoptions hfile]
  of_none := by
    intro hoptions hfiles
    have hnone := firstOf_append hfiles []
    rw [List.append_nil] at hnone
    rw [hnone, effective_firstOf_nil hoptions]

/-- It makes no difference whether files are passed over because they are reported as missing
or because they are not there, if all that are not there are reported so. -/
theorem Precedence.of_reported {files : List Path} {settings : Settings}
    (h : Precedence isMissing read files options settings)
    (hreported : ∀ f ∈ files, (read f).isAbsent = true → (read f).isMissing = true) :
    Precedence isAbsent read files options settings where
  of_options := h.of_options
  of_first := by
    rintro hoptions before file behind rfl hbefore hfile
    refine h.of_first hoptions before file behind rfl ?_ ?_
    · intro f hf
      exact hreported f (List.mem_append_left _ hf) (hbefore f hf)
    · rw [Bool.eq_false_iff] at hfile ⊢
      exact fun hmissing => hfile (FileRead.isAbsent_of_isMissing hmissing)
  of_none := by
    intro hoptions hfiles
    exact h.of_none hoptions fun f hf => hreported f hf (hfiles f hf)

theorem Precedence.eq_of_agree {passedOver : FileRead → Bool} {read' : Path → FileRead}
    {before behind : List Path} {file : Path} {settings settings' : Settings}
    (h : Precedence passedOver read (before ++ file :: behind) options settings)
    (h' : Precedence passedOver read' (before ++ file :: behind) options settings')
    (hbefore : ∀ f ∈ before, passedOver (read f) = true) (hfile : passedOver (read file) = false)
    (hagree : ∀ f ∈ before ++ [file], read' f = read f) : settings' = settings := by
  have hsame : read' file = read file := hagree file (by simp)
  have hbefore' : ∀ f ∈ before, passedOver (read' f) = true := by
    intro f hf
    rw [hagree f (List.mem_append_left _ hf)]
    exact hbefore f hf
  cases hoptions : options.bind ofOptions? with
  | some s => rw [h.of_options s hoptions, h'.of_options s hoptions]
  | none =>
    rw [h.of_first hoptions before file behind rfl hbefore hfile,
      h'.of_first hoptions before file behind rfl hbefore' (hsame ▸ hfile), hsame]

end Settings

def ClientMessage.isStart : ClientMessage → Bool
  | .start _ _ => true
  | _ => false

namespace Server
variable {s after : Server} {events : List Event}

theorem settings_of_handle {read : Path → FileRead} {m : ClientMessage} {effect : Effect}
    (h : Course (s.handle read m) events effect) (hm : m.isStart = false) :
    effect.server.settings = s.settings := by
  cases m with
  | start root options => cases hm
  | codeAction uri range =>
    obtain ⟨response, first, second, rfl, -, -, rfl⟩ := Dialogue.course_bind_iff.mp h
    rfl
  | command name arguments => rw [server_of_command h]
  | _ => exact congrArg (fun e => e.server.settings) h.2

theorem settings_of_session {steps : List Step} (h : Course (s.session steps) events after)
    (hsteps : ∀ step ∈ steps, step.message.isStart = false) : after.settings = s.settings := by
  induction steps generalizing s events with
  | nil => rw [h.2]
  | cons step rest ih =>
    obtain ⟨hstep, hrest⟩ := List.forall_mem_cons.mp hsteps
    obtain ⟨effect, first, second, rfl, hfirst, hsecond⟩ := Dialogue.course_bind_iff.mp h
    rw [ih hsecond hrest, settings_of_handle hfirst hstep]

theorem settings_of_start {read : Path → FileRead} {root : Option Path} {options : Option Json}
    {later : List Step} (h : Course (s.session (⟨.start root options, read⟩ :: later)) events after)
    (hlater : ∀ step ∈ later, step.message.isStart = false) :
    after.settings =
      .effective (Settings.discover read s.explicitFile root s.userFile) options := by
  obtain ⟨effect, first, second, rfl, hfirst, hsecond⟩ := Dialogue.course_bind_iff.mp h
  rw [settings_of_session hsecond hlater, hfirst.2]
  rfl

/-- Once a session has begun, its settings are the client's options if there are any that can
be read. Else they come from the file of the command line, the one of the workspace or the one
of the user, whichever is the first that is not reported as missing; they are the standard ones
if it cannot be used or if there is none. What comes behind that file has no influence. If all
files that are not there are reported as missing, that file is the first one that is there. -/
theorem settings_after_start (s : Server) (editor : Editor) (root : Option Path)
    (options : Option Json) (later : List Step)
    (hlater : ∀ step ∈ later, step.message.isStart = false) :
    let files := s.explicitFile.toList ++ (root.map fun r => r.join ".enumswitch.toml").toList ++
      s.userFile.toList
    let settings := fun read : Path → FileRead =>
      (editor.converse (s.session (⟨.start root options, read⟩ :: later))).1.settings
    ∀ read : Path → FileRead,
      Settings.Precedence FileRead.isMissing read files options (settings read) ∧
      ((∀ f ∈ files, (read f).isAbsent = true → (read f).isMissing = true) →
        Settings.Precedence FileRead.isAbsent read files options (settings read)) ∧
      ∀ (read' : Path → FileRead) (before behind : List Path) (file : Path),
        files = before ++ file :: behind → (∀ f ∈ before, (read f).isMissing = true) →
        (read file).isMissing = false → (∀ f ∈ before ++ [file], read' f = read f) →
        settings read' = settings read := by
  intro files settings read
  have hprecedence : ∀ read,
      Settings.Precedence FileRead.isMissing read files options (settings read) := by
    intro read
    have hsettings : settings read = .effective (Settings.firstOf read files) options :=
      settings_of_start (editor.course_converse _) hlater
    rw [hsettings]
    exact Settings.precedence_effective read files options
  refine ⟨hprecedence read, (hprecedence read).of_reported, ?_⟩
  intro read' before behind file hfiles hbefore hfile hagree
  have hfirst := hprecedence read
  have hsecond := hprecedence read'
  rw [hfiles] at hfirst hsecond
  exact hfirst.eq_of_agree hsecond hbefore hfile hagree

/-- The file of the command line is missing, the one of the workspace can be used, and the one
of the user is never looked at. The options are of the wrong form, and so they have no part in
the settings either. -/
theorem settings_after_start_workspace :
    let explicit := Path.ofString "/home/custom.toml"
    let root := Path.ofString "/ws"
    let user := Path.ofString "/home/.config/enumswitch/config.toml"
    let options : Json := .obj [("actionTitle", .str "Fill"), ("maxSweepPositions", .str "many")]
    let read : Path → FileRead := fun file =>
      if file = root.join ".enumswitch.toml" then .content "languageIds = [\"cuda\"]\n"
      else if file = user then .content "languageIds = [\"c\"]\n"
      else .missing
    let editor : Editor := fun _ call => .error (.transport call.method 0 "")
    let later : List Step := [⟨.started, read⟩, ⟨.shutdown, read⟩]
    (∀ step ∈ later, step.message.isStart = false) ∧
    (editor.converse ((fresh (some explicit) (some user) true).session
      (⟨.start (some root) (some options), read⟩ :: later))).1.settings =
        { Settings.standard with languageIds := ["cuda"] } := by
  intro explicit root user options read editor later
  have hlater : ∀ step ∈ later, step.message.isStart = false :=
    List.forall_iff_forall_mem.mp ⟨rfl, rfl⟩
  obtain ⟨hprecedence, -, -⟩ := settings_after_start (fresh (some explicit) (some user) true) editor
    (some root) (some options) later hlater read
  refine ⟨hlater, (hprecedence.of_first ?_ [explicit] (root.join ".enumswitch.toml") [user] rfl
    ?_ ?_).trans ?_⟩
  all_goals decide +kernel

/-- The root of the workspace is a file, so there is no file below it. Still the file of the
user, which is there and can be used, is not looked at. -/
theorem not_precedence_of_root_file :
    let root := Path.ofString "/home/paint.cpp"
    let user := Path.ofString "/home/.config/enumswitch/config.toml"
    let files := [root.join ".enumswitch.toml", user]
    let read : Path → FileRead := fun file =>
      if file = root.join ".enumswitch.toml" then .failed .notDirectory
      else if file = user then .content "maxSweepPositions = 40\n"
      else .missing
    let editor : Editor := fun _ call => .error (.transport call.method 0 "")
    ¬Settings.Precedence FileRead.isAbsent read files none
      (editor.converse ((fresh none (some user) true).session
        [⟨.start (some root) none, read⟩])).1.settings := by
  intro root user files read editor hprecedence
  have huser := hprecedence.of_first rfl [root.join ".enumswitch.toml"] user [] rfl
    (by decide +kernel) (by decide +kernel)
  exact absurd huser (by decide +kernel)

end Server
end CaseFill
