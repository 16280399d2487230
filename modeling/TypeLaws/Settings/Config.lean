import TypeLaws.Report.Check
import TypeLaws.Settings.Expansion
import TypeLaws.Value.Equality

/-!
The configuration of a run, and why a row of settings is no configuration. All settings are
checked before any is refused, so that one rejection names everything that is wrong with them.
-/

namespace TypeLaws

structure ReportTarget where
  path : Text
  suite : Text
  deriving DecidableEq

structure Config where
  reporter : Reporter
  debugLog : Option Text
  verbose : Bool
  junit : Option ReportTarget
  deriving DecidableEq

namespace Config

inductive Problem where
  | absent
  | unknownKey
  | keyNotText
  | notReporter
  | notText
  | notEncoded
  | notTruth
  /-- A text or a number that does not say yes or no. -/
  | unclearTruth
  | notGroup
  | blankSuite
  /-- The paths, each with its key, that cannot be expanded. -/
  | unexpandable (paths : List (String × Text))
  | needsCollector
  deriving DecidableEq

def pathLine (path : String × Text) : Text :=
  ("  " ++ path.1 ++ "=" : String) ++ path.2

def Problem.reason? : Problem → Option Text
  | .blankSuite => some "suite_name must not be blank"
  | .unexpandable paths =>
      some ("Config has missing environment variables:\n" ++
        ("\n" : Text).intercalate (paths.map pathLine))
  | .needsCollector => some "junit output requires reporter: collect"
  | _ => none

/-- A reason as it is shown: a half is shown as three characters that nothing can be read from. -/
def shown (reason : Text) : String :=
  String.ofList (reason.flatMap fun point => (point.char?.map ([·])).getD (.replicate 3 '\ufffd'))

def Problem.message : Problem → String
  | .absent => "Field required"
  | .unknownKey => "Extra inputs are not permitted"
  | .keyNotText => "Keys should be strings"
  | .notReporter => "Input should be 'raise' or 'collect'"
  | .notText => "Input should be a valid string"
  | .notEncoded =>
      "Input should be a valid string, unable to parse raw data as a unicode string"
  | .notTruth => "Input should be a valid boolean"
  | .unclearTruth => "Input should be a valid boolean, unable to interpret input"
  | .notGroup => "Input should be a valid dictionary or instance of JunitConfig"
  | problem => "Value error, " ++ shown (problem.reason?.getD [])

inductive Step where
  | key (name : String)
  | number (n : Int)
  deriving DecidableEq

structure Complaint where
  place : List Step
  problem : Problem
  deriving DecidableEq

inductive Rejection where
  /-- The settings are not a row of keys and values but a value of another kind. -/
  | notMapping (kind : String)
  | keysNotText
  | invalid (complaints : List Complaint)
  deriving DecidableEq

def Rejection.message? : Rejection → Option String
  | .notMapping kind =>
      some ("typeoracle.config.OracleConfig() argument after ** must be a mapping, not " ++ kind)
  | .keysNotText => some "keywords must be strings"
  | .invalid _ => none

/--
What a setting is set to. A target is kept as the object that it is, without a check and without a
copy. An object of a class that is not known here has been read where a reporter, a text and a
truth value are expected.
-/
inductive Setting where
  | value (v : Value)
  | row (entries : List (Value × Setting))
  | target (target : ReportTarget)
  | object (reporter : Except Problem Reporter) (text : Except Problem Text)
      (truth : Except Problem Bool)

abbrev Entries := List (Value × Setting)

end Config

end TypeLaws
