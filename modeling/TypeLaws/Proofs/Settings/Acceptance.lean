import TypeLaws.Settings.Validation

/-!
Which settings make a configuration. Settings are checked one by one before anything else is done
with them; then the two paths are expanded, and what cannot be expanded is refused in one list
before the settings are checked against each other.
-/

namespace TypeLaws.Config

/-! ### Settings one by one -/

/-- Every setting is right by itself, no key is unknown, and `fields` is what the settings say. -/
structure Validates (entries : Entries) (fields : Config) : Prop where
  reporter : readOr entries "reporter" .raising readReporter = .ok fields.reporter
  debugLog : readOr entries "debug_log" none readOptionalText = .ok fields.debugLog
  verbose : readOr entries "verbose" false readTruth = .ok fields.verbose
  junit : (match setting? entries "junit" with
    | some setting => readJUnit setting
    | none => .ok none) = .ok fields.junit
  known : ∀ entry ∈ entries, ∃ name ∈ keys, entry.1 = .text name

theorem keyComplaint_eq_nil_iff {known : List String} {key : Value} :
    keyComplaint known key = [] ↔ ∃ name ∈ known, key = .text name := by
  cases key <;> simp [keyComplaint]

theorem keyComplaints_eq_nil_iff {known : List String} {entries : Entries} :
    keyComplaints known entries = [] ↔ ∀ entry ∈ entries, ∃ name ∈ known, entry.1 = .text name := by
  rw [keyComplaints, List.flatMap_eq_nil_iff]
  exact forall₂_congr fun _ _ => keyComplaint_eq_nil_iff

theorem ofEntries_eq_ok_iff {entries : Entries} {fields : Config} :
    ofEntries entries = .ok fields ↔ Validates entries fields := by
  unfold ofEntries
  extract_lets reporter debugLog verbose junit
  constructor
  · intro accepted
    split at accepted
    next reporter' debugLog' verbose' junit' isReporter isDebugLog isVerbose isJUnit nothing =>
      cases accepted
      exact ⟨isReporter, isDebugLog, isVerbose, isJUnit, keyComplaints_eq_nil_iff.mp nothing⟩
    next => cases accepted
  · intro valid
    rw [show reporter = _ from valid.reporter, show debugLog = _ from valid.debugLog,
      show verbose = _ from valid.verbose, show junit = _ from valid.junit,
      keyComplaints_eq_nil_iff.mpr valid.known]

/-! ### Paths -/

/-- A path, which may be absent, is there and cannot be expanded. -/
def Fails (path : Option Text) (env : Environment) : Prop :=
  ∃ text fault, path = some text ∧ (Settings.expand text env).1 = .error fault

/-- The environment after an attempt to expand a path, be it in vain. -/
def leftBy (path : Option Text) (env : Environment) : Environment :=
  match path with
  | none => env
  | some text => (Settings.expand text env).2

def expansion (path : Option Text) (env : Environment) : Option Text :=
  path.bind fun text => (Settings.expand text env).1.toOption

theorem fails_some_iff {text : Text} {env : Environment} :
    Fails (some text) env ↔ expansion (some text) env = none := by
  rw [expansion, Option.bind_some]
  constructor
  · rintro ⟨_, fault, ⟨⟩, failed⟩
    rw [failed]
    rfl
  · intro absent
    cases ran : (Settings.expand text env).1 with
    | error fault => exact ⟨text, fault, rfl, ran⟩
    | ok expanded =>
        rw [ran] at absent
        cases absent

theorem expandOptional_cases (path : Option Text) (env : Environment) :
    (Fails path env ∧ ∃ fault, expandOptional path env = (.error fault, leftBy path env)) ∨
      (¬Fails path env ∧
        expandOptional path env = (.ok (expansion path env), leftBy path env)) := by
  cases path with
  | none =>
      refine .inr ⟨?_, rfl⟩
      rintro ⟨text, fault, impossible, -⟩
      cases impossible
  | some text =>
      rcases ran : Settings.expand text env with ⟨result, left⟩
      cases result with
      | error fault =>
          refine .inl ⟨⟨text, fault, rfl, congrArg Prod.fst ran⟩, fault, ?_⟩
          rw [expandOptional, leftBy, ran]
          rfl
      | ok expanded =>
          refine .inr ⟨?_, ?_⟩
          · rintro ⟨_, fault, ⟨⟩, failed⟩
            rw [ran] at failed
            cases failed
          · rw [expandOptional, leftBy, expansion, Option.bind_some, ran]
            rfl

def refusedPaths (fields : Config) (env : Environment) : List (String × Text) :=
  let report := fields.junit.map ReportTarget.path
  failing "debug_log" fields.debugLog (expandOptional fields.debugLog env).1 ++
    failing "junit.path" report (expandOptional report (leftBy fields.debugLog env)).1

/-- Both expansions are tried, the second in what the first has left even if it has failed. -/
theorem expandPaths_of_fails {fields : Config} {env : Environment}
    (fails : Fails fields.debugLog env ∨
      Fails (fields.junit.map ReportTarget.path) (leftBy fields.debugLog env)) :
    fields.expandPaths env =
      (.error (refusedPaths fields env),
        leftBy (fields.junit.map ReportTarget.path) (leftBy fields.debugLog env)) := by
  unfold expandPaths refusedPaths
  -- If the first path fails it does not matter for the outcome whether the second one does.
  rcases expandOptional_cases fields.debugLog env with ⟨-, fault, ranLog⟩ | ⟨logExpands, ranLog⟩
  · rw [ranLog]
    dsimp only
    rcases expandOptional_cases (fields.junit.map ReportTarget.path)
        (leftBy fields.debugLog env) with ⟨-, fault, ran⟩ | ⟨-, ran⟩ <;> rw [ran]
  · rw [ranLog]
    dsimp only
    obtain ⟨-, fault, ran⟩ := (expandOptional_cases (fields.junit.map ReportTarget.path)
      (leftBy fields.debugLog env)).resolve_right
        fun both => both.1 (fails.resolve_left logExpands)
    rw [ran]

def expanded (fields : Config) (env : Environment) : Config :=
  let report := expansion (fields.junit.map ReportTarget.path) (leftBy fields.debugLog env)
  { fields with
    debugLog := expansion fields.debugLog env
    junit := fields.junit.map fun target => { target with path := report.getD target.path } }

theorem expandPaths_of_not_fails {fields : Config} {env : Environment}
    (logExpands : ¬Fails fields.debugLog env)
    (reportExpands :
      ¬Fails (fields.junit.map ReportTarget.path) (leftBy fields.debugLog env)) :
    fields.expandPaths env =
      (.ok (expanded fields env),
        leftBy (fields.junit.map ReportTarget.path) (leftBy fields.debugLog env)) := by
  obtain ⟨-, ranLog⟩ := (expandOptional_cases fields.debugLog env).resolve_left
    fun both => logExpands both.1
  obtain ⟨-, ran⟩ := (expandOptional_cases (fields.junit.map ReportTarget.path)
    (leftBy fields.debugLog env)).resolve_left fun both => reportExpands both.1
  rw [expandPaths, ranLog]
  dsimp only
  rw [ran]
  rfl

theorem make_of_validates {entries : Entries} {fields : Config} (valid : Validates entries fields)
    (env : Environment) :
    make entries env =
      match fields.expandPaths env with
      | (.error paths, env) => ⟨.error (rejectWhole (.unexpandable paths)), entries, env⟩
      | (.ok config, env) =>
          ⟨if config.isConsistent then .ok config else .error (rejectWhole .needsCollector),
            renewed config entries, env⟩ := by
  have keysAreText : (entries.any fun entry => entry.1.kind != "str") = false := by
    rw [List.any_eq_false]
    intro entry member
    obtain ⟨name, -, isText⟩ := valid.known entry member
    rw [isText]
    exact Bool.false_ne_true
  rw [make, keysAreText, ofEntries_eq_ok_iff.mpr valid]
  rfl

theorem make_of_not_validates {entries : Entries}
    (invalid : ¬∃ fields, Validates entries fields) :
    ∃ rejection, ∀ env, make entries env = ⟨.error rejection, entries, env⟩ := by
  unfold make
  split
  · exact ⟨_, fun _ => rfl⟩
  · cases read : ofEntries entries with
    | error complaints => exact ⟨_, fun _ => rfl⟩
    | ok fields => exact absurd ⟨fields, ofEntries_eq_ok_iff.mp read⟩ invalid

/-- A path that cannot be expanded is what the settings are refused for, whatever the reporter. -/
theorem make_of_fails {entries : Entries} {fields : Config} (valid : Validates entries fields)
    {env : Environment}
    (fails : Fails fields.debugLog env ∨
      Fails (fields.junit.map ReportTarget.path) (leftBy fields.debugLog env)) :
    make entries env =
      ⟨.error (.invalid [⟨[], .unexpandable (refusedPaths fields env)⟩]), entries,
        leftBy (fields.junit.map ReportTarget.path) (leftBy fields.debugLog env)⟩ := by
  rw [make_of_validates valid, expandPaths_of_fails fails]
  rfl

theorem isConsistent_iff (config : Config) :
    config.isConsistent = true ↔ config.junit = none ∨ config.reporter = .collecting := by
  simp [isConsistent]

theorem isConsistent_expanded (fields : Config) (env : Environment) :
    (expanded fields env).isConsistent = fields.isConsistent := by
  cases fields with
  | mk reporter debugLog verbose junit => cases junit <;> rfl

theorem make_of_expands {entries : Entries} {fields : Config} (valid : Validates entries fields)
    {env : Environment} (logExpands : ¬Fails fields.debugLog env)
    (reportExpands : ¬Fails (fields.junit.map ReportTarget.path) (leftBy fields.debugLog env)) :
    make entries env =
      ⟨if fields.isConsistent then .ok (expanded fields env)
        else .error (.invalid [⟨[], .needsCollector⟩]),
        renewed (expanded fields env) entries,
        leftBy (fields.junit.map ReportTarget.path) (leftBy fields.debugLog env)⟩ := by
  rw [make_of_validates valid, expandPaths_of_not_fails logExpands reportExpands]
  dsimp only
  rw [isConsistent_expanded]
  rfl

theorem exists_validates_of_make_ok {entries : Entries} {env : Environment} {config : Config}
    (made : (make entries env).result = .ok config) :
    ∃ fields, Validates entries fields ∧ fields.isConsistent ∧ config = expanded fields env := by
  by_cases valid : ∃ fields, Validates entries fields
  · obtain ⟨fields, valid⟩ := valid
    by_cases fails : Fails fields.debugLog env ∨
        Fails (fields.junit.map ReportTarget.path) (leftBy fields.debugLog env)
    · rw [make_of_fails valid fails] at made
      cases made
    · rw [make_of_expands valid (fun fault => fails (.inl fault)) fun fault => fails (.inr fault)]
        at made
      dsimp only at made
      split at made
      · next consistent =>
          cases made
          exact ⟨fields, valid, consistent, rfl⟩
      · cases made
  · obtain ⟨rejection, refused⟩ := make_of_not_validates valid
    rw [refused] at made
    cases made

def withPaths (reporter debugLog report : String) : Entries :=
  [(.text "reporter", .value (.text reporter)), (.text "debug_log", .value (.text debugLog)),
    (.text "junit", .value (.dict [(.text "path", .text report)]))]

theorem withPaths_validates (debugLog report : String) :
    Validates (withPaths "collect" debugLog report)
        ⟨.collecting, some debugLog, false, some ⟨report, JUnit.defaultSuite⟩⟩ ∧
      Validates (withPaths "raise" debugLog report)
        ⟨.raising, some debugLog, false, some ⟨report, JUnit.defaultSuite⟩⟩ := by
  constructor
  · exact ⟨rfl, rfl, rfl, rfl, by simp [withPaths, keys]⟩
  · exact ⟨rfl, rfl, rfl, rfl, by simp [withPaths, keys]⟩

end TypeLaws.Config
