import TypeLaws.Report.Collector
import TypeLaws.Xml.Markup
import TypeLaws.Xml.Reader

/-!
Failures as a JUnit report: one suite with one test case for each failure. Names of failures repeat
when an assertion breaks several laws, so the cases are numbered.

The elements, the order of their attributes and the counts are those of the library `junitparser`.
It writes a report in three stages: the elements are serialised in ASCII, the result is parsed, and
the tree that comes of it is printed with its lines indented. A text that XML cannot hold fails in
the second one.
-/

namespace TypeLaws

namespace JUnit

structure Case where
  name : Text
  headline : Text
  content : Text

def defaultSuite : String := "typeoracle"

def Case.shownName (case : Case) : Text :=
  if case.name.isEmpty then "assertion" else case.name

def Case.title (number : Nat) (case : Case) : Text :=
  Text.ofChars (Text.decimal number) ++ ": " ++ case.shownName

def testCase (suite : Text) (number : Nat) (case : Case) : Markup :=
  let message := if case.headline.isEmpty then [] else [("message", case.headline)]
  .element "testcase" [("name", case.title number), ("classname", suite)] []
    [.element "failure" message case.content []]

def testCases (suite : Text) (number : Nat) : List Case → List Markup
  | [] => []
  | case :: rest => testCase suite number case :: testCases suite (number + 1) rest

def counts (cases : List Case) : List (String × Text) :=
  if cases.isEmpty then []
  else
    let count := Text.ofChars (Text.decimal cases.length)
    [("tests", count), ("errors", "0"), ("failures", count), ("skipped", "0"), ("time", "0")]

def tree (suite : Text) (cases : List Case) : Markup :=
  .element "testsuites" [] []
    [.element "testsuite" (("name", suite) :: counts cases) [] (testCases suite 1 cases)]

/-- The report of a row of cases; nothing if the serialised elements cannot be parsed. -/
def write? (suite : Text) (cases : List Case) : Option String :=
  (Xml.read? (tree suite cases).serialise).map Xml.document

def writtenMessage (count : Nat) (target : String) : String :=
  "Wrote " ++ String.ofList (Text.decimal count) ++ " failure(s) to " ++ target

end JUnit

def Failure.case (failure : Failure) : JUnit.Case :=
  ⟨failure.name, failure.headline, failure.render⟩

namespace Collector

def writeJUnit (suite : Text) (target : String) : Check String := do
  require "write_junit"
  let failures := (← get).failures
  match JUnit.write? suite (failures.map Failure.case) with
  | none => throw .unwritable
  | some text =>
      Check.log ⟨.debug, Log.exportLogger, JUnit.writtenMessage failures.length target⟩
      return text

end Collector

end TypeLaws
