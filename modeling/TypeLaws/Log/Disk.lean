import TypeLaws.Path
import TypeLaws.Text.Encoding
import TypeLaws.Text.Quoted

/-!
The files below one directory. A place is the row of parts that leads to it from that directory,
without dots; only directories have places below them. Names are kept as bytes, so the parts of a
place are texts as they are read back.
-/

namespace TypeLaws.Log

abbrev Place := List Text

inductive Entry where
  | file (content : String)
  | directory
  deriving DecidableEq

structure Disk where
  entries : List (Place × Entry)
  deriving DecidableEq

namespace Disk

inductive Fault where
  | exists (way : List Text)
  /-- A file stands on the way. -/
  | notDirectory (way : List Text)
  | isDirectory (way : List Text)
  | unencodable (way : List Text)
  | nullCharacter
  deriving DecidableEq

def Fault.message (directory : Text) (fault : Fault) : String :=
  let path := fun (way : List Text) => [Path.slash].intercalate (directory :: way)
  match fault with
  | .exists way => "[Errno 17] File exists: " ++ Text.quotePoints (path way)
  | .notDirectory way => "[Errno 20] Not a directory: " ++ Text.quotePoints (path way)
  | .isDirectory way => "[Errno 21] Is a directory: " ++ Text.quotePoints (path way)
  | .unencodable way => Text.encodingComplaint (path way)
  | .nullCharacter => "embedded null byte"

def empty : Disk := ⟨[]⟩

def entry? (disk : Disk) : Place → Option Entry
  | [] => some .directory
  | place => disk.entries.lookup place

def put (place : Place) (entry : Entry) (disk : Disk) : Disk :=
  ⟨(place, entry) :: disk.entries.filter fun other => other.1 != place⟩

def read? (disk : Disk) (place : Place) : Option String :=
  match disk.entry? place with
  | some (.file content) => some content
  | _ => none

def append (place : Place) (text : String) (disk : Disk) : Disk :=
  match disk.read? place with
  | some content => disk.put place (.file (content ++ text))
  | none => disk

def wayOf (path : Text) : List Text :=
  (Path.parts path).filter fun part => part != [] && part != Path.here

def enter (place : Place) (part : Text) : Place :=
  Path.step place part.stored

inductive Obstacle where
  | nothing
  | file

def walk (disk : Disk) (place : Place) : List Text → Except Obstacle Place
  | [] => .ok place
  | part :: rest =>
      let next := enter place part
      match disk.entry? next with
      | some .directory => walk disk next rest
      | some (.file _) => .error .file
      | none => .error .nothing

/-- The text of the file that a path leads to. Whatever stands in front of a slash in the path has
to be a directory. -/
def readPath? (disk : Disk) (path : Text) : Option String :=
  let parts := Path.parts path
  match disk.walk [] parts.dropLast with
  | .ok place => disk.read? (enter place (parts.getLast?.getD []))
  | .error _ => none

/-- What is done on a disk stays done if the work fails later. -/
abbrev Work := ExceptT Fault (StateM Disk)

def makeLast (parent : Place) (way : List Text) (part : Text) : Work Unit := do
  let place := enter parent part
  let disk ← get
  match disk.entry? place with
  | some .directory => return ()
  | some (.file _) => throw (.exists way)
  | none => modify fun disk => disk.put place .directory

def makeDirectories : (backward : List Text) → Work Unit
  | [] => return ()
  | part :: before => do
      let way := (part :: before).reverse
      match (← get).walk [] before.reverse with
      | .ok parent => makeLast parent way part
      | .error .file => throw (.notDirectory way)
      | .error .nothing =>
          makeDirectories before
          match (← get).walk [] before.reverse with
          | .ok parent => makeLast parent way part
          | .error _ => throw (.notDirectory way)

def checkNames (way : List Text) : Work Unit :=
  if !way.all Text.isEncodable then throw (.unencodable way)
  else if way.any fun part => part.contains (.char '\x00') then throw .nullCharacter
  else return ()

/-- Makes an empty file at the place of a way. A file that is there stays as it is. -/
def makeFile (place : Place) (way : List Text) : Work Unit := do
  let disk ← get
  match disk.entry? place with
  | some .directory => throw (.isDirectory way)
  | some (.file _) => return ()
  | none => modify fun disk => disk.put place (.file "")

def openFile (path : Text) : Work Place := do
  let way := wayOf path
  let short := way.foldl Path.step []
  let place := way.foldl enter []
  checkNames way.dropLast
  makeDirectories way.dropLast.reverse
  checkNames short
  makeFile place short
  return place

end Disk

end TypeLaws.Log
