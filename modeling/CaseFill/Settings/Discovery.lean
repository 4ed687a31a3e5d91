import CaseFill.Path
import CaseFill.Settings.Options
import CaseFill.Toml.Parser

/-! Where settings come from. One file is read: the one given on the command
line, else the one in the workspace, else the one of the user, whichever exists
first. A file that exists and cannot be used is an error and is never replaced
by the next one. -/
namespace CaseFill

inductive ReadFailure where
  | isDirectory
  | notDirectory
  | notText
  | badName
  | nameTooLong
  | other
deriving DecidableEq, Repr, Inhabited

inductive FileRead where
  | missing
  | failed (why : ReadFailure)
  | content (text : String)
deriving DecidableEq, Repr, Inhabited

inductive SettingsError where
  | unreadable (path : Path) (why : ReadFailure)
  | malformed (path : Path)
  | badOptions
deriving DecidableEq, Repr

namespace Settings

def workspaceFile : String := ".enumswitch.toml"

/-- The settings file of a user: below the configuration directory, or below
`.config` in the home directory if none is given by an absolute path. -/
def userFile (home : Path) (configDirectory : Option Path) : Path :=
  let directory := match configDirectory with
    | some d => if d.isAbsolute then d else home.join ".config"
    | none => home.join ".config"
  (directory.join "enumswitch").join "config.toml"

def ofRead (path : Path) : FileRead → Except SettingsError (Option Settings)
  | .missing => .ok none
  | .failed why => .error (.unreadable path why)
  | .content text =>
    match (Toml.parse? text).bind ofTable? with
    | some s => .ok (some s)
    | none => .error (.malformed path)

/-- The files to look at, the most specific one first. -/
def candidates (explicit workspaceRoot user : Option Path) : List Path :=
  explicit.toList ++ (workspaceRoot.map fun root => root.join workspaceFile).toList ++ user.toList

/-- Settings of the first file that exists, or the standard ones. -/
def firstOf (read : Path → FileRead) : List Path → Except SettingsError Settings
  | [] => .ok standard
  | path :: rest =>
    match ofRead path (read path) with
    | .ok (some s) => .ok s
    | .ok none => firstOf read rest
    | .error e => .error e

def discover (read : Path → FileRead) (explicit workspaceRoot user : Option Path) :
    Except SettingsError Settings :=
  firstOf read (candidates explicit workspaceRoot user)

/-- Settings that take effect: those of the client if they can be read, else
those of the files, else the standard ones. -/
def effective (files : Except SettingsError Settings) (options : Option Json) : Settings :=
  match options.bind ofOptions? with
  | some s => s
  | none =>
    match files with
    | .ok s => s
    | .error _ => standard

end Settings
end CaseFill
