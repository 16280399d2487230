import TypeLaws.Settings.Config
import TypeLaws.Report.JUnit

/-!
From settings to a configuration. First every setting is checked by itself; if all are right the
paths among them are expanded, the debug log before the report; and only then the settings are
checked against each other.

Settings are read as the package `pydantic` is assumed to read them for these fields: which values
it takes for a text, a truth value, a word of a choice or a group, which complaint it makes about
any other one and in which order, and that a group that is an object of its class already is neither
checked again nor copied.
-/

namespace TypeLaws.Config

def decodeBytes? (octets : List UInt8) : Option String :=
  String.fromUTF8? ⟨octets.toArray⟩

def textOf : Value → Except Problem Text
  | .text s => .ok s
  | .brokenText points _ => .ok points
  | .bytes octets =>
      match decodeBytes? octets with
      | some s => .ok s
      | none => .error .notEncoded
  | _ => .error .notText

def readText : Setting → Except Problem Text
  | .value v => textOf v
  | .object _ text _ => text
  | _ => .error .notText

def readOptionalText : Setting → Except Problem (Option Text)
  | .value .null => .ok none
  | setting => do return some (← readText setting)

def readReporter : Setting → Except Problem Reporter
  | .value (.text "raise") => .ok .raising
  | .value (.text "collect") => .ok .collecting
  | .value (.brokenText _ _) => .error .notEncoded
  | .object reporter _ _ => reporter
  | _ => .error .notReporter

def lowerAscii (s : String) : String :=
  String.ofList (s.toList.map Char.toLower)

def truthOfText (s : String) : Except Problem Bool :=
  let word := lowerAscii s
  if ["0", "off", "f", "false", "n", "no"].contains word then .ok false
  else if ["1", "on", "t", "true", "y", "yes"].contains word then .ok true
  else .error .unclearTruth

def truthOfInt (n : Int) : Except Problem Bool :=
  if n = 0 then .ok false else if n = 1 then .ok true else .error .unclearTruth

/-- The number lies between the ends of the integers of 64 bits, but is not the least of them. -/
def isInsideWord (n : Int) : Bool :=
  Int64.minValue.toInt < n && n ≤ Int64.maxValue.toInt

/-- Only whole numbers of 64 bits can stand for yes and no. -/
def truthOfFloat (x : Binary64) : Except Problem Bool :=
  match x.value? with
  | none => .error .notTruth
  | some q => if q.isInt && isInsideWord q.num then truthOfInt q.num else .error .notTruth

def truthOf : Value → Except Problem Bool
  | .bool b => .ok b
  | .text s => truthOfText s
  | .bytes octets =>
      match decodeBytes? octets with
      | some s => truthOfText s
      | none => .error .unclearTruth
  | .int n =>
      if Value.isWordSized n then truthOfInt n else .error .notTruth
  | .float x => truthOfFloat x
  | .brokenText _ _ => .error .notEncoded
  | _ => .error .notTruth

def readTruth : Setting → Except Problem Bool
  | .value v => truthOf v
  | .object _ _ truth => truth
  | _ => .error .notTruth

def readSuite (setting : Setting) : Except Problem Text := do
  let suite ← readText setting
  if (Text.trimBlank suite).isEmpty then throw .blankSuite else return suite

def setting? {α : Type} (entries : List (Value × α)) (key : String) : Option α :=
  (entries.find? fun entry => entry.1 == .text key).map Prod.snd

def settings (entries : List (Value × Value)) : Entries :=
  entries.map fun entry => (entry.1, .value entry.2)

def complaintOf {α : Type} (key : String) : Except Problem α → List Complaint
  | .ok _ => []
  | .error problem => [⟨[.key key], problem⟩]

def readOr {α : Type} (entries : Entries) (key : String) (default : α)
    (read : Setting → Except Problem α) : Except Problem α :=
  match setting? entries key with
  | some setting => read setting
  | none => .ok default

def readRequired {α : Type} (entries : Entries) (key : String)
    (read : Setting → Except Problem α) : Except Problem α :=
  match setting? entries key with
  | some setting => read setting
  | none => .error .absent

def isUnprintable (n : Int) : Bool :=
  Text.digitLimit < (Text.decimal n.natAbs).length

def stepOf (key : Value) : Step :=
  match key.asInt? with
  | some n =>
      if Value.isWordSized n then .number n
      else if isUnprintable n then .key "<unprintable int object>"
      else .key key.literal
  | none => .key key.literal

def keyComplaint (known : List String) (key : Value) : List Complaint :=
  match key with
  | .text name => if known.contains name then [] else [⟨[.key name], .unknownKey⟩]
  | key => [⟨[stepOf key], .keyNotText⟩]

def keyComplaints (known : List String) (entries : Entries) : List Complaint :=
  entries.flatMap fun entry => keyComplaint known entry.1

def isBroken : Value → Bool
  | .brokenText _ _ => true
  | _ => false

/-- A key that has a half in it hides all other complaints about its row. -/
def orBroken (entries : Entries) (complaints : List Complaint) : List Complaint :=
  if entries.any fun entry => isBroken entry.1 then [⟨[], .notEncoded⟩] else complaints

def reportKeys : List String := ["path", "suite_name"]

def readTarget (entries : Entries) : Except (List Complaint) ReportTarget :=
  let path := readRequired entries "path" readText
  let suite := readOr entries "suite_name" (.ofString JUnit.defaultSuite) readSuite
  match path, suite, keyComplaints reportKeys entries with
  | .ok path, .ok suite, [] => .ok ⟨path, suite⟩
  | path, suite, others =>
      .error (orBroken entries
        (complaintOf "path" path ++ complaintOf "suite_name" suite ++ others))

def Complaint.within (key : String) (complaint : Complaint) : Complaint :=
  ⟨.key key :: complaint.place, complaint.problem⟩

def readGroup (entries : Entries) : Except (List Complaint) (Option ReportTarget) :=
  match readTarget entries with
  | .ok target => .ok (some target)
  | .error complaints => .error (complaints.map (Complaint.within "junit"))

def readJUnit : Setting → Except (List Complaint) (Option ReportTarget)
  | .value .null => .ok none
  | .value (.dict entries) => readGroup (settings entries)
  | .row entries => readGroup entries
  | .target target => .ok (some target)
  | _ => .error [⟨[.key "junit"], .notGroup⟩]

def keys : List String := ["reporter", "debug_log", "verbose", "junit"]

def ofEntries (entries : Entries) : Except (List Complaint) Config :=
  let reporter := readOr entries "reporter" .raising readReporter
  let debugLog := readOr entries "debug_log" none readOptionalText
  let verbose := readOr entries "verbose" false readTruth
  let junit := match setting? entries "junit" with
    | some setting => readJUnit setting
    | none => .ok none
  match reporter, debugLog, verbose, junit, keyComplaints keys entries with
  | .ok reporter, .ok debugLog, .ok verbose, .ok junit, [] =>
      .ok ⟨reporter, debugLog, verbose, junit⟩
  | reporter, debugLog, verbose, junit, others =>
      let inJUnit := match junit with
        | .ok _ => []
        | .error complaints => complaints
      .error (orBroken entries (complaintOf "reporter" reporter ++
        complaintOf "debug_log" debugLog ++ complaintOf "verbose" verbose ++ inJUnit ++ others))

def expandOptional (path : Option Text) (env : Environment) :
    Except Settings.Expansion.Fault (Option Text) × Environment :=
  match path with
  | none => (.ok none, env)
  | some text =>
      let (ending, env) := Settings.expand text env
      (ending.map some, env)

def failing {α : Type} (key : String) (path : Option Text) :
    Except Settings.Expansion.Fault α → List (String × Text)
  | .ok _ => []
  | .error _ => path.toList.map fun text => (key, text)

/-- Expands both paths, the second in the environment that the first has left. -/
def expandPaths (config : Config) (env : Environment) :
    Except (List (String × Text)) Config × Environment :=
  let target := config.junit.map ReportTarget.path
  let (debugLog, env) := expandOptional config.debugLog env
  let (report, env) := expandOptional target env
  match debugLog, report with
  | .ok debugLog, .ok report =>
      (.ok { config with
        debugLog
        junit := config.junit.map fun target => { target with path := report.getD target.path } },
        env)
  | debugLog, report =>
      (.error (failing "debug_log" config.debugLog debugLog ++ failing "junit.path" target report),
        env)

/-- A report is made from collected failures only. -/
def isConsistent (config : Config) : Bool :=
  config.junit.isNone || config.reporter = .collecting

def rejectWhole (problem : Problem) : Rejection :=
  .invalid [⟨[], problem⟩]

/-- An attempt to make a configuration, with what it leaves of its settings and its environment. -/
structure Attempt where
  result : Except Rejection Config
  settings : Entries
  env : Environment

def Setting.renew (target : Option ReportTarget) : Setting → Setting
  | .target old => .target (target.getD old)
  | setting => setting

/-- The settings once the paths have been replaced: a target among them is that of the
configuration. -/
def renewed (config : Config) (entries : Entries) : Entries :=
  entries.map fun entry => (entry.1, entry.2.renew config.junit)

def make (entries : Entries) (env : Environment) : Attempt :=
  if entries.any fun entry => entry.1.kind != "str" then ⟨.error .keysNotText, entries, env⟩
  else
    match ofEntries entries with
    | .error complaints => ⟨.error (.invalid complaints), entries, env⟩
    | .ok config =>
        match config.expandPaths env with
        | (.error paths, env) => ⟨.error (rejectWhole (.unexpandable paths)), entries, env⟩
        | (.ok config, env) =>
            ⟨if config.isConsistent then .ok config else .error (rejectWhole .needsCollector),
              renewed config entries, env⟩

end TypeLaws.Config
