import TypeLaws.Report.Collector
import TypeLaws.Session.Assertion

/-!
Test scripts: rows of commands that make subjects and make assertions of them. A session goes on
after a step that ends early; a script ends there, as a test does. Subjects are numbered in the
order in which they are made, those that come back from assertions included.
-/

namespace TypeLaws.Script

inductive Command (τ : Type) where
  | create (value : Option τ)
  | assert (on : Nat) (assertion : Assertion τ)
  | describe (on : Nat)

inductive Result (τ : Type) where
  /-- The command names a subject that no earlier command made. -/
  | skipped
  | shown (text : String)
  | reply (reply : Assertion.Reply τ)

def Result.made {τ : Type} : Result τ → List (Subject τ)
  | .reply (.subject subject) => [subject]
  | _ => []

/-- The results of the commands that were completed, and what ended the script early. -/
structure Run (τ : Type) where
  results : List (Result τ)
  stop : Option Stop
  journal : Journal

variable {τ : Type} (system : TypeSystem τ)

def Command.perform (subjects : List (Subject τ)) : Command τ → Check (Result τ)
  | .create value => return .reply (.subject (Subject.of value))
  | .assert on assertion =>
      match subjects[on]? with
      | none => return .skipped
      | some subject => return .reply (← assertion.perform system subject)
  | .describe on =>
      match subjects[on]? with
      | none => return .skipped
      | some subject => return .shown (← Check.call (subject.debugText system))

def runFrom (reporter : Reporter) (subjects : List (Subject τ)) (journal : Journal) :
    List (Command τ) → Run τ
  | [] => ⟨[], none, journal⟩
  | command :: rest =>
      match (command.perform system subjects).runFrom reporter journal with
      | (.error stop, reached) => ⟨[], some stop, reached⟩
      | (.ok result, reached) =>
          let run := runFrom reporter (subjects ++ result.made) reached rest
          { run with results := result :: run.results }

def run (reporter : Reporter) (script : List (Command τ)) : Run τ :=
  runFrom system reporter [] .empty script

/-- How a collecting run ends early if the collected failures are verified after it. -/
def Run.verified (run : Run τ) : Option Stop :=
  match run.stop with
  | some stop => some stop
  | none =>
      match (Collector.verify.runFrom .collecting run.journal).1 with
      | .ok _ => none
      | .error stop => some stop

end TypeLaws.Script
