import TypeLaws.Log.Disk
import TypeLaws.Log.Record
import TypeLaws.Log.Stamp

/-!
Loggers with their levels and handlers. A logger is made when its name is first used. A record
goes to every handler of its logger and of the loggers above it, which are named by beginnings of
its name that end before a dot; above all of them is the root. A logger that was never set up has
no level and takes that of the nearest logger above it that has one.
-/

namespace TypeLaws.Log

inductive Handler where
  | file (place : Place)
  | standardError
  deriving DecidableEq

structure Logger where
  level : Option Level
  handlers : List Handler
  deriving DecidableEq

def Logger.fresh : Logger := ⟨none, []⟩

def Logger.remove (logger : Logger) (handler : Handler) : Logger :=
  { logger with handlers := logger.handlers.erase handler }

def Logger.shed (logger : Logger) : Logger :=
  logger.handlers.foldl Logger.remove logger

structure State where
  loggers : List (String × Logger)
  disk : Disk
  standardError : String
  deriving DecidableEq

inductive Fault where
  | inUse (name : String)
  | disk (fault : Disk.Fault)
  deriving DecidableEq

def Fault.message (directory : Text) : Fault → String
  | .inUse name =>
      "Logger '" ++ name ++
        "' already exists with handlers attached; give each suite its own logger name"
  | .disk fault => fault.message directory

def rootName : String := "root"

/-- The name by which a logger is known: the empty name means the root. -/
def canonical (name : String) : String :=
  if name == "" then rootName else name

/--
The beginnings of a name that end before a dot, the longest first; the name is given backward. The
character in front of such a dot is not looked at, so of two dots side by side only the second one
counts.
-/
def beginningsBackward (name : List Char) : List (List Char) :=
  match _found : name.dropWhile (· != '.') with
  | [] => []
  | [_] => []
  | _ :: last :: rest => (last :: rest) :: beginningsBackward rest
termination_by name.length
decreasing_by
  have within := (List.dropWhile_suffix (p := (· != '.')) (l := name)).length_le
  rw [_found] at within
  simp only [List.length_cons] at within
  omega

def candidates (name : String) : List String :=
  (beginningsBackward name.toList.reverse).map fun backward => String.ofList backward.reverse

namespace State

def initial : State :=
  { loggers := (rootName, ⟨some .warning, []⟩) ::
      [assertionLogger, reporterLogger, exportLogger].map (·, .fresh)
    disk := .empty
    standardError := "" }

def logger (state : State) (name : String) : Logger :=
  (state.loggers.lookup (canonical name)).getD .fresh

def touch (name : String) (state : State) : State :=
  if (state.loggers.lookup (canonical name)).isSome then state
  else { state with loggers := state.loggers ++ [(canonical name, .fresh)] }

def setLogger (name : String) (logger : Logger) (state : State) : State :=
  let state := state.touch name
  { state with
    loggers := state.loggers.map fun entry =>
      if entry.1 == canonical name then (entry.1, logger) else entry }

/--
A logger stands above another one that it may stand above, once it has been made. But one whose
name is a beginning of that of the root is taken for the root by the loggers made before it.
-/
def standsAbove (state : State) (upper lower : String) : Bool :=
  let names := state.loggers.map Prod.fst
  names.contains upper &&
    (!upper.toList.isPrefixOf rootName.toList || names.idxOf upper < names.idxOf lower)

def parent (state : State) (name : String) : String :=
  ((candidates name).find? (state.standsAbove · name)).getD rootName

/-- A logger and those above it. Each has been made, so `fuel` may be the number of loggers. -/
def chainFrom (state : State) : (fuel : Nat) → String → List String
  | 0, _ => []
  | fuel + 1, name =>
      if name == rootName then [name] else name :: chainFrom state fuel (state.parent name)

def chain (state : State) (name : String) : List String :=
  state.chainFrom state.loggers.length (canonical name)

/-- Gives a logger a file and, if `verbose`, standard error. A logger in use is refused. Its level
is set before the file is made, and stays set if that fails, as do the directories made for it. -/
def setUp (name : String) (file : Text) (verbose : Bool) (state : State) : Except Fault Unit × State :=
  if !(state.logger name).handlers.isEmpty then (.error (.inUse name), state)
  else
    let state := state.setLogger name ⟨some .debug, []⟩
    let (ending, disk) := (Disk.openFile file).run.run state.disk
    let state := { state with disk }
    match ending with
    | .error fault => (.error (.disk fault), state)
    | .ok place =>
        let handlers := .file place :: (if verbose then [.standardError] else [])
        (.ok (), state.setLogger name ⟨some .debug, handlers⟩)

def tearDown (name : String) (state : State) : State :=
  state.setLogger name (state.logger name).shed

def line (message : String) : String :=
  stampMark ++ message ++ "\n"

def effectiveLevel (state : State) (name : String) : Nat :=
  (((state.chain name).findSome? fun name => (state.logger name).level).map Level.number).getD 0

def handlersOf (state : State) (name : String) : List Handler :=
  (state.chain name).flatMap fun name => (state.logger name).handlers

def writeTo (text : String) (state : State) : Handler → State
  | .file place => { state with disk := state.disk.append place text }
  | .standardError => { state with standardError := state.standardError ++ text }

def log (record : Record) (state : State) : State :=
  let state := state.touch record.logger
  if record.level.number < state.effectiveLevel record.logger then state
  else
    match state.handlersOf record.logger with
    | [] =>
        if record.level.number < Level.warning.number then state
        else { state with standardError := state.standardError ++ record.message ++ "\n" }
    | handlers => handlers.foldl (writeTo (line record.message)) state

def logAll (records : List Record) (state : State) : State :=
  records.foldl (fun state record => state.log record) state

end State

end TypeLaws.Log
