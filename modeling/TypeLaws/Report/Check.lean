import TypeLaws.Fact
import TypeLaws.Log.Record
import TypeLaws.System.Fault

/-!
Running checks. A check reports failures to a reporter, writes log records, and may end early: by
a fault of a type under test, or because the reporter stops it. What it leaves behind is a journal
of the collected failures and of the log records, which is kept however the check ends.
-/

namespace TypeLaws

/-- Where failures go: the first one ends the check, or all are collected. -/
inductive Reporter where
  | raising
  | collecting
  deriving DecidableEq

/-- What stands for a reporter where it is handed on: a reference, which is not looked into. -/
abbrev Handle := Nat

def Handle.ofSession : Handle := 0

inductive Stop where
  | fault (fault : Fault)
  | unmet (facts : List Fact) (text : Text)
  /-- A report holds a character that its format has no way to write. -/
  | unwritable

structure Journal where
  failures : List Failure
  records : List Log.Record

def Journal.empty : Journal := ⟨[], []⟩

/-- A check that gives a value of type `α` unless it ends early. It may report to any reporter. -/
abbrev Check := ReaderT (Handle → Reporter) (ExceptT Stop (StateM Journal))

namespace Check

/-- Runs a check from a journal to what it gives and the journal that it leaves. -/
def runUnder {α : Type} (check : Check α) (reporters : Handle → Reporter) (journal : Journal) :
    Except Stop α × Journal :=
  (check reporters).run.run journal

/-- Runs a check with reporters of one kind only. -/
def runFrom {α : Type} (check : Check α) (reporter : Reporter) (journal : Journal) :
    Except Stop α × Journal :=
  check.runUnder (fun _ => reporter) journal

def call {α : Type} (outcome : Outcome α) : Check α :=
  match outcome with
  | .ok value => pure value
  | .error fault => throw (.fault fault)

def log (record : Log.Record) : Check Unit :=
  modify fun journal => { journal with records := journal.records ++ [record] }

def stopMessage (name : String) (facts : List Fact) : String :=
  Failure.shownName name ++ " failed: " ++ ((facts.head?.map Fact.label).getD "")

def collectMessage (failure : Failure) : String :=
  "Recorded failure from " ++ Failure.shownName failure.name ++ ": " ++ failure.headline

def report (sink : Handle) (facts : List Fact) (name : String) : Check Unit := do
  match (← read) sink with
  | .raising =>
      log ⟨.debug, Log.reporterLogger, stopMessage name facts⟩
      throw (.unmet facts (Fact.layout facts))
  | .collecting =>
      let failure : Failure := ⟨name, facts⟩
      log ⟨.info, Log.reporterLogger, collectMessage failure⟩
      modify fun journal => { journal with failures := journal.failures ++ [failure] }

end Check

end TypeLaws
