import TypeLaws.Report.Collector
import TypeLaws.Report.JUnit
import TypeLaws.Session.Assertion

/-!
Sessions: scripts of steps that make subjects, make assertions of them, and use the reporter. All
subjects of a session share its reporter; in a session without one, failures end their steps, and
there is nothing to ask about them. A step that names a subject which no earlier step made is
skipped; a step that ends early leaves the following ones to run.
-/

namespace TypeLaws.Session

inductive Step (τ : Type) where
  | create (name : String) (subject : Subject τ)
  /-- Calls an assertion of a subject; a subject that comes back is kept under `keep`. -/
  | assert (on : String) (call : Assertion.Call τ) (keep : Option String)
  | describe (on : String)
  | report (facts : List Fact) (name : String)
  | verify
  | clear
  | hasFailures
  | failures
  | write (suite : Text) (target : String)

inductive Result (τ : Type) where
  | nothing
  | truth (b : Bool)
  | text (s : String)
  | sameSubject
  | subject (shown : String) (subject : Subject τ)
  | listing (rows : List (String × String))

inductive Answer (τ : Type) where
  | result (result : Result τ)
  | stopped (stop : Stop)
  | skipped

structure Response (τ : Type) where
  answer : Answer τ
  reported : List Failure
  records : List Log.Record

/-- The subjects made so far, the latest first, and the collected failures. -/
structure State (τ : Type) where
  subjects : List (String × Subject τ)
  failures : List Failure

def State.initial {τ : Type} : State τ := ⟨[], []⟩

variable {τ : Type} (system : TypeSystem τ) (reporter : Option Reporter)

structure Ending (τ : Type) where
  answer : Answer τ
  kept : List (String × Subject τ)

def only (check : Check (Result τ)) : Check (Ending τ) := do
  return ⟨.result (← check), []⟩

/-- The answer that shows a subject, which stays known even if it cannot be shown. -/
def showing (subject : Subject τ) (make : String → Result τ) : Answer τ :=
  match subject.debugText system with
  | .ok shown => .result (make shown)
  | .error fault => .stopped (.fault fault)

def asking (method : String) (check : Check (Result τ)) : Check (Ending τ) :=
  match reporter with
  | some _ => only check
  | none => throw (.fault (.noSuchMethod Value.null.kind method))

def assertion (subject : Subject τ) (call : Assertion.Call τ) (keep : Option String) :
    Check (Ending τ) := do
  let assertion ← Check.call (Assertion.ofCall system subject call)
  match ← assertion.perform system subject with
  | .nothing => return ⟨.result .nothing, []⟩
  | .itself => return ⟨.result .sameSubject, keep.toList.map (·, subject)⟩
  | .subject child =>
      return ⟨showing system child (.subject · child), keep.toList.map (·, child)⟩

/-- What a step does; nothing if it names a subject that does not exist. -/
def plan (subjects : List (String × Subject τ)) : Step τ → Option (Check (Ending τ))
  | .create name subject => some (pure ⟨showing system subject .text, [(name, subject)]⟩)
  | .assert on call keep => do
      return assertion system (← subjects.lookup on) call keep
  | .describe on => do
      return pure ⟨showing system (← subjects.lookup on) .text, []⟩
  | .report facts name => some (only do Check.report .ofSession facts name; return .nothing)
  | .verify => some (asking reporter "verify" do Collector.verify; return .nothing)
  | .clear => some (asking reporter "clear" do Collector.clear; return .nothing)
  | .hasFailures =>
      some (asking reporter "has_failures" do return .truth (← Collector.hasFailures))
  | .failures => some (asking reporter "failures" do
      return .listing ((← Collector.failures).map fun failure => (failure.name, failure.headline)))
  | .write suite target =>
      some (asking reporter "write_junit" do
        return .text (← Collector.writeJUnit suite target))

def step (state : State τ) (next : Step τ) : Response τ × State τ :=
  match plan system reporter state.subjects next with
  | none => (⟨.skipped, [], []⟩, state)
  | some plan =>
      let (ending, journal) := plan.runFrom (reporter.getD .raising) ⟨state.failures, []⟩
      let reported := journal.failures.drop state.failures.length
      match ending with
      | .ok ending =>
          (⟨ending.answer, reported, journal.records⟩,
            ⟨ending.kept ++ state.subjects, journal.failures⟩)
      | .error stop =>
          (⟨.stopped stop, reported, journal.records⟩, ⟨state.subjects, journal.failures⟩)

def runFrom (state : State τ) : List (Step τ) → List (Response τ)
  | [] => []
  | next :: rest =>
      let (response, state) := step system reporter state next
      response :: runFrom state rest

def run (steps : List (Step τ)) : List (Response τ) :=
  runFrom system reporter .initial steps

end TypeLaws.Session
