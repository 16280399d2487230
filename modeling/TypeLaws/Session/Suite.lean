import TypeLaws.Log.State
import TypeLaws.Session.Run
import TypeLaws.Settings.Validation
import TypeLaws.Text.LineEnd

/-!
Suites: scripts of steps that set up loggers, by hand or by a configuration, log messages, make
single assertions, whose records are logged as well, and look at what has been written.
-/

namespace TypeLaws.Suite

inductive Step (τ : Type) where
  | setUp (name : String) (file : Text) (verbose : Bool)
  | configure (settings : Config.Entries) (env : Environment)
  | tearDown (name : String)
  | log (record : Log.Record)
  | assert (reporter : Option Reporter) (subject : Subject τ) (call : Assertion.Call τ)
  | read (file : Text)
  | standardError

inductive Answer (τ : Type) where
  | nothing
  | logger (name : String) (level : Nat) (handlers : List Log.Handler)
  | text (s : String)
  | assertion (answer : Session.Answer τ)
  | refused (fault : Log.Fault)
  | rejected (rejection : Config.Rejection)

variable {τ : Type} (system : TypeSystem τ)

def showLogger (state : Log.State) (name : String) : Answer τ :=
  let logger := state.logger name
  .logger (Log.canonical name) ((logger.level.map Log.Level.number).getD 0) logger.handlers

def setUp (name : String) (file : Text) (verbose : Bool) (state : Log.State) : Answer τ × Log.State :=
  match state.setUp name file verbose with
  | (.ok (), state) => (showLogger state name, state)
  | (.error fault, state) => (.refused fault, state)

/-- Sets up the logger of this library, if the configuration has a debug log. -/
def configure (config : Config) (state : Log.State) : Answer τ × Log.State :=
  match config.debugLog with
  | none => (.nothing, state)
  | some file => setUp Log.libraryLogger file config.verbose state

def readFile (state : Log.State) (file : Text) : String :=
  match state.disk.readPath? file with
  | some content => Log.maskStamps (String.ofList (Text.unifyLineEnds content.toList))
  | none => "<no file>"

def subjectName : String := "subject"

/-- Calls one assertion, as a session of its own. -/
def assertion (reporter : Option Reporter) (subject : Subject τ) (call : Assertion.Call τ) :
    Session.Response τ :=
  (Session.step system reporter ⟨[(subjectName, subject)], []⟩
    (.assert subjectName call none)).1

def step (state : Log.State) : Step τ → Answer τ × Log.State
  | .setUp name file verbose => setUp name file verbose state
  | .configure settings env =>
      match (Config.make settings env).result with
      | .ok config => configure config state
      | .error rejection => (.rejected rejection, state)
  | .tearDown name =>
      let state := state.tearDown name
      (showLogger state name, state)
  | .log record => (.nothing, state.log record)
  | .assert reporter subject made =>
      let response := assertion system reporter subject made
      (.assertion response.answer, state.logAll response.records)
  | .read file => (.text (readFile state file), state)
  | .standardError => (.text (Log.maskStamps state.standardError), state)

def runFrom (state : Log.State) : List (Step τ) → List (Answer τ)
  | [] => []
  | next :: rest =>
      let (answer, state) := step system state next
      answer :: runFrom state rest

def run (steps : List (Step τ)) : List (Answer τ) :=
  runFrom system .initial steps

end TypeLaws.Suite
