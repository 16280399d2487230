import TypeLaws.Report.Check

/-!
The collected failures: asking for them, clearing them, and turning them into one failure that sums
them up. Only a collecting reporter has them.
-/

namespace TypeLaws.Collector

def block (number : Nat) (failure : Failure) : Text :=
  "\n" ++ String.ofList (Text.decimal number) ++ ". " ++ failure.name ++ "\n" ++ failure.render

def blocks (number : Nat) : List Failure → List Text
  | [] => []
  | failure :: rest => block number failure :: blocks (number + 1) rest

def heading (count : Nat) : String :=
  String.ofList (Text.decimal count) ++ " type assertion "
    ++ (if count = 1 then "failure" else "failures")

def summary (failures : List Failure) : Text :=
  ("\n" : Text).intercalate (heading failures.length :: blocks 1 failures)

/-- Only a collecting reporter has a method of this name. -/
def require (method : String) : Check Unit := do
  match (← read) .ofSession with
  | .collecting => return ()
  | .raising => throw (.fault (.noSuchMethod "RaisingReporter" method))

def failures : Check (List Failure) := do
  require "failures"
  return (← get).failures

def hasFailures : Check Bool := do
  require "has_failures"
  return !(← get).failures.isEmpty

def clear : Check Unit := do
  require "clear"
  modify fun journal => { journal with failures := [] }

def verify : Check Unit := do
  require "verify"
  let failures := (← get).failures
  if failures.isEmpty then return ()
  else throw (.unmet (failures.flatMap Failure.facts) (summary failures))

end TypeLaws.Collector
