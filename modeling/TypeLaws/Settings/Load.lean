import TypeLaws.Path
import TypeLaws.Settings.Validation
import TypeLaws.Yaml.Document

/-!
Loading of a configuration from a document. The paths in it that are relative, after they have
been expanded, are taken from the directory of the document; absolute ones stay as they are. No
link stands on the way, so that a path is followed by its parts alone.
-/

namespace TypeLaws.Config

inductive LoadFault where
  | document (fault : Yaml.Fault)
  | rejected (rejection : Rejection)
  | unencodable (path : Text)
  | nullCharacter
  deriving DecidableEq

def LoadFault.message? : LoadFault → Option String
  | .unencodable path => some (Text.encodingComplaint path)
  | .nullCharacter => some "embedded null byte"
  | _ => none

/-- Settings lie at most this deep in a document. -/
def settingDepth : Nat := 3

/-- The settings in the value of a document. An empty value of any kind has none. -/
def settingsOf (value : Value) : Except Rejection Entries :=
  if value.isTrue then
    match value with
    | .dict entries => .ok (settings entries)
    | value => .error (.notMapping value.kind)
  else .ok []

/-- Goes one part further, and looks up what is there. -/
def enter (place : List Text) (part : Text) : Except LoadFault (List Text) :=
  let next := Path.step place part
  if !part.isEncodable then .error (.unencodable (Path.write next))
  else if part.contains (.char '\x00') then .error .nullCharacter
  else .ok next

def place (directory : List Text) (path : Text) : Except LoadFault Text :=
  if Path.isAbsolute path then .ok path
  else return Path.write (← (Path.parts path).foldlM enter directory)

def placeIn (directory : List Text) (config : Config) : Except LoadFault Config := do
  let debugLog ← config.debugLog.mapM (place directory)
  let junit ← config.junit.mapM fun target => do
    return { target with path := ← place directory target.path }
  return { config with debugLog, junit }

def ofValue (value : Value) (env : Environment) : Except Rejection Config := do
  (make (← settingsOf value) env).result

def load (directory : List Text) (text : String) (env : Environment) :
    Except LoadFault Config :=
  match Yaml.Document.value settingDepth text with
  | .error fault => .error (.document fault)
  | .ok value =>
      match ofValue value env with
      | .error rejection => .error (.rejected rejection)
      | .ok config => config.placeIn directory

end TypeLaws.Config
