import Mathlib
import TypeLaws.Proofs.Path
import TypeLaws.Proofs.Settings.Assignment
import TypeLaws.Proofs.Settings.Replacement
import TypeLaws.Settings.Load

/-!
Where the paths of a loaded configuration lie. A path that is relative once it has been expanded is
taken from the directory of the document, in its normal form. What has been loaded no longer depends
on that directory, nor on the environment: a document with the paths as they were found, in place of
what was set, gives the same configuration.
-/

/-! ### Values that are absent on both sides or on none -/

namespace TypeLaws.Optional

variable {α β γ δ : Type} {related : α → β → Prop} {first : Option α} {second : Option β}

theorem eq_none_iff_of_rel (rel : Option.Rel related first second) :
    second = none ↔ first = none := by
  cases rel <;> simp

theorem map_eq_map_of_rel {read : α → γ} {readNext : β → γ} (rel : Option.Rel related first second)
    (same : ∀ {a b}, related a b → readNext b = read a) : second.map readNext = first.map read := by
  cases rel with
  | none => rfl
  | some here => exact congrArg some (same here)

theorem rel_of_rel {relatedNext : α → β → Prop} (rel : Option.Rel related first second)
    (here : ∀ {a b}, related a b → relatedNext a b) : Option.Rel relatedNext first second := by
  cases rel with
  | none => exact .none
  | some this => exact .some (here this)

theorem rel_map {read : α → γ} {readNext : β → δ} {relatedNext : γ → δ → Prop}
    (rel : Option.Rel (fun a b => relatedNext (read a) (readNext b)) first second) :
    Option.Rel relatedNext (first.map read) (second.map readNext) := by
  cases rel with
  | none => exact .none
  | some this => exact .some this

theorem exists_of_rel_some {b : β} (rel : Option.Rel related first (some b)) : ∃ a, related a b := by
  cases rel with
  | some here => exact ⟨_, here⟩

theorem rel_self {related : α → α → Prop} (here : ∀ a ∈ first, related a a) :
    Option.Rel related first first := by
  cases first with
  | none => exact .none
  | some a => exact .some (here a rfl)

end TypeLaws.Optional

namespace TypeLaws.Config

open Optional
open Settings (IsPlain)

/-! ### Placing -/

/-- What becomes of a path in a document of a directory. -/
structure IsPlaced (directory : List Text) (path placed : Text) : Prop where
  kept : Path.isAbsolute path → placed = path
  moved : ¬Path.isAbsolute path → ∃ place, placed = Path.write place ∧
    Path.IsNormalForm (directory ++ Path.parts path) place
  isAbsolute : Path.isAbsolute placed
  parts : ¬Path.isAbsolute path → placed = [Path.slash] ∨
    ∃ place, Path.parts placed = [] :: place ∧
      ∀ part ∈ place, part ≠ [] ∧ part ≠ Path.here ∧ part ≠ Path.above

theorem isPlaced_self {path : Text} (absolute : Path.isAbsolute path) (directory : List Text) :
    IsPlaced directory path path :=
  ⟨fun _ => rfl, fun relative => absurd absolute relative, absolute,
    fun relative => absurd absolute relative⟩

theorem isPlaced_write {directory : List Text} {path : Text} {place : List Text}
    (relative : ¬Path.isAbsolute path)
    (form : Path.IsNormalForm (directory ++ Path.parts path) place) :
    IsPlaced directory path (Path.write place) := by
  refine ⟨fun absolute => absurd absolute relative, fun _ => ⟨place, rfl, form⟩,
    Path.isAbsolute_write place, fun _ => ?_⟩
  by_cases top : place = []
  · rw [top]
    exact .inl rfl
  · refine .inr ⟨place, Path.parts_write top form.normal, ?_⟩
    intro part member
    obtain ⟨notEmpty, notDot, notBack, -⟩ := (Path.isNormalPart_iff part).mp (form.normal part member)
    exact ⟨notEmpty, notDot, notBack⟩

/-- A part can stand in the name of a file. -/
def IsName (part : Text) : Prop :=
  part.isEncodable ∧ .char '\x00' ∉ part

instance (part : Text) : Decidable (IsName part) :=
  inferInstanceAs (Decidable (_ ∧ _))

theorem enter_of_isName {part : Text} (isName : IsName part) (place : List Text) :
    enter place part = .ok (Path.step place part) := by
  have noNull : ¬part.contains (.char '\x00') := fun held => isName.2 (List.contains_iff_mem.mp held)
  simp only [enter, isName.1, Bool.not_true, Bool.false_eq_true, if_false, if_neg noNull]

def lookUpFault (place : List Text) (part : Text) : LoadFault :=
  if part.isEncodable then .nullCharacter else .unencodable (Path.write (place ++ [part]))

theorem enter_of_not_isName {part : Text} (noName : ¬IsName part) (place : List Text) :
    enter place part = .error (lookUpFault place part) := by
  have further : Path.step place part = place ++ [part] := by
    have named : IsName [] ∧ IsName Path.here ∧ IsName Path.above := by decide
    have notEmpty : part ≠ [] := fun same => noName (same ▸ named.1)
    have notHere : part ≠ Path.here := fun same => noName (same ▸ named.2.1)
    have notAbove : part ≠ Path.above := fun same => noName (same ▸ named.2.2)
    simp [Path.step, notEmpty, notHere, notAbove]
  rw [enter, lookUpFault, further]
  by_cases encodable : part.isEncodable
  · have held : .char '\x00' ∈ part := Decidable.not_not.mp fun free => noName ⟨encodable, free⟩
    simp [encodable, held]
  · simp [encodable]

theorem foldlM_enter_of_isName {row : List Text} (names : ∀ part ∈ row, IsName part)
    (directory : List Text) : row.foldlM enter directory = .ok (row.foldl Path.step directory) := by
  induction row generalizing directory with
  | nil => rfl
  | cons part rest ih =>
      obtain ⟨isName, areNames⟩ := List.forall_mem_cons.mp names
      rw [List.foldlM_cons, enter_of_isName isName, List.foldl_cons, ← ih areNames]
      rfl

/-- A relative path that cannot be looked up: the first part that cannot stand in a name is at fault. -/
def StopsAt (directory : List Text) (path : Text) (fault : LoadFault) : Prop :=
  ¬Path.isAbsolute path ∧ ∃ before part after, Path.parts path = before ++ part :: after ∧
    (∀ earlier ∈ before, IsName earlier) ∧ ¬IsName part ∧
    fault = lookUpFault (before.foldl Path.step directory) part

theorem exists_first_noName {row : List Text} (some : ¬∀ part ∈ row, IsName part) :
    ∃ before part after, row = before ++ part :: after ∧ (∀ earlier ∈ before, IsName earlier) ∧
      ¬IsName part := by
  induction row with
  | nil => exact absurd (List.forall_mem_nil _) some
  | cons part rest ih =>
      by_cases isName : IsName part
      · obtain ⟨before, other, after, rfl, names, noName⟩ :=
          ih fun names => some (List.forall_mem_cons.mpr ⟨isName, names⟩)
        exact ⟨part :: before, other, after, rfl, List.forall_mem_cons.mpr ⟨isName, names⟩, noName⟩
      · exact ⟨[], part, rest, rfl, List.forall_mem_nil _, isName⟩

theorem place_of_stopsAt {directory : List Text} {path : Text} {fault : LoadFault}
    (stops : StopsAt directory path fault) : place directory path = .error fault := by
  obtain ⟨relative, before, part, after, whole, names, noName, rfl⟩ := stops
  rw [place, if_neg relative, whole, List.foldlM_append, foldlM_enter_of_isName names]
  change (enter (before.foldl Path.step directory) part >>= _) >>= _ = _
  rw [enter_of_not_isName noName]
  rfl

theorem place_of_absolute {path : Text} (absolute : Path.isAbsolute path)
    (directory : List Text) : place directory path = .ok path :=
  if_pos absolute

theorem place_cases (directory : List Text) (path : Text) :
    (Path.isAbsolute path ∧ place directory path = .ok path) ∨
      (¬Path.isAbsolute path ∧ place directory path =
        .ok (Path.write ((Path.parts path).foldl Path.step directory))) ∨
      ∃ fault, StopsAt directory path fault := by
  by_cases absolute : Path.isAbsolute path
  · exact .inl ⟨absolute, place_of_absolute absolute directory⟩
  · by_cases names : ∀ part ∈ Path.parts path, IsName part
    · refine .inr (.inl ⟨absolute, ?_⟩)
      rw [place, if_neg absolute, foldlM_enter_of_isName names]
      rfl
    · obtain ⟨before, part, after, whole, areNames, noName⟩ := exists_first_noName names
      exact .inr (.inr ⟨_, absolute, before, part, after, whole, areNames, noName, rfl⟩)

theorem isPlaced_of_place_eq_ok {directory : List Text}
    (normal : ∀ part ∈ directory, Path.isNormalPart part) {path placed : Text}
    (places : place directory path = .ok placed) : IsPlaced directory path placed := by
  rcases place_cases directory path with ⟨absolute, kept⟩ | ⟨relative, moved⟩ | ⟨fault, stops⟩
  · rw [kept] at places
    cases places
    exact isPlaced_self absolute directory
  · rw [moved] at places
    cases places
    exact isPlaced_write relative (Path.isNormalForm_foldl_step normal path)
  · rw [place_of_stopsAt stops] at places
    cases places

structure IsMoved (directory : List Text) (target moved : ReportTarget) : Prop where
  path : place directory target.path = .ok moved.path
  suite : moved.suite = target.suite

structure PlacesIn (directory : List Text) (made config : Config) : Prop where
  reporter : config.reporter = made.reporter
  verbose : config.verbose = made.verbose
  debugLog : Option.Rel (fun path placed => place directory path = .ok placed)
    made.debugLog config.debugLog
  junit : Option.Rel (IsMoved directory) made.junit config.junit

theorem placeIn_eq_ok_iff {directory : List Text} {made config : Config} :
    made.placeIn directory = .ok config ↔ PlacesIn directory made config := by
  have moves (target moved : ReportTarget) :
      (do return { target with path := ← place directory target.path } : Except LoadFault _) =
        .ok moved ↔ IsMoved directory target moved := by
    rw [Work.bind_eq_ok_iff]
    constructor
    · intro ⟨path, isPath, same⟩
      cases same
      exact ⟨isPath, rfl⟩
    · intro isMoved
      refine ⟨moved.path, isMoved.path, ?_⟩
      rw [← isMoved.suite]
      rfl
  unfold placeIn
  rw [Work.bind_eq_ok_iff]
  constructor
  · intro ⟨debugLog, logged, rest⟩
    obtain ⟨junit, reported, same⟩ := Work.bind_eq_ok_iff.mp rest
    cases same
    rw [Work.mapM_eq_ok_iff] at logged reported
    simp only [moves] at reported
    exact ⟨rfl, rfl, logged, reported⟩
  · intro places
    refine ⟨config.debugLog, Work.mapM_eq_ok_iff.mpr places.debugLog, ?_⟩
    rw [Work.bind_eq_ok_iff]
    refine ⟨config.junit, ?_, ?_⟩
    · rw [Work.mapM_eq_ok_iff]
      simp only [moves]
      exact places.junit
    · rw [← places.reporter, ← places.verbose]
      rfl

/-! ### Loading -/

/-- The settings that a text holds: none if it has no value, or an empty one of any kind. -/
def HasSettings (text : String) (entries : Entries) : Prop :=
  ∃ value, Yaml.Document.value settingDepth text = .ok value ∧
    if value.isTrue then ∃ rows, value = .dict rows ∧ entries = settings rows else entries = []

theorem settingsOf_eq_ok_iff {value : Value} {entries : Entries} :
    settingsOf value = .ok entries ↔
      if value.isTrue then ∃ rows, value = .dict rows ∧ entries = settings rows
      else entries = [] := by
  unfold settingsOf
  split
  · cases value <;> simp [eq_comm]
  · simp [eq_comm]

theorem HasSettings.unique {text : String} {entries others : Entries}
    (has : HasSettings text entries) (alsoHas : HasSettings text others) : entries = others := by
  obtain ⟨value, isValue, holds⟩ := has
  obtain ⟨same, isSame, alsoHolds⟩ := alsoHas
  rw [isValue] at isSame
  cases isSame
  rw [← settingsOf_eq_ok_iff] at holds alsoHolds
  rw [holds] at alsoHolds
  exact Except.ok.inj alsoHolds

/-- Settings say what `fields` is, and give a configuration in a document of a directory. -/
structure Loads (directory : List Text) (entries : Entries) (env : Environment)
    (fields config : Config) : Prop where
  valid : Validates entries fields
  consistent : fields.isConsistent
  logExpands : ¬Fails fields.debugLog env
  reportExpands : ¬Fails (fields.junit.map ReportTarget.path) (leftBy fields.debugLog env)
  places : PlacesIn directory (expanded fields env) config

theorem Loads.make {directory : List Text} {entries : Entries} {env : Environment}
    {fields config : Config} (loads : Loads directory entries env fields config) :
    (make entries env).result = .ok (expanded fields env) := by
  rw [make_of_expands loads.valid loads.logExpands loads.reportExpands]
  exact if_pos loads.consistent

theorem expands_of_make_ok {entries : Entries} {env : Environment} {fields made : Config}
    (valid : Validates entries fields) (isMade : (Config.make entries env).result = .ok made) :
    ¬Fails fields.debugLog env ∧
      ¬Fails (fields.junit.map ReportTarget.path) (leftBy fields.debugLog env) := by
  rw [← not_or]
  intro fails
  rw [make_of_fails valid fails] at isMade
  cases isMade

theorem loads_of_make_ok {directory : List Text} {entries : Entries} {env : Environment}
    {made config : Config} (isMade : (Config.make entries env).result = .ok made)
    (places : PlacesIn directory made config) :
    ∃ fields, Loads directory entries env fields config := by
  obtain ⟨fields, valid, consistent, rfl⟩ := exists_validates_of_make_ok isMade
  obtain ⟨logExpands, reportExpands⟩ := expands_of_make_ok valid isMade
  exact ⟨fields, valid, consistent, logExpands, reportExpands, places⟩

section Document

variable {text : String} {value : Value} {env : Environment}

theorem load_of_refused (parsed : Yaml.Document.value settingDepth text = .ok value)
    (directory : List Text) {rejection : Rejection}
    (refused : ofValue value env = .error rejection) :
    load directory text env = .error (.rejected rejection) := by
  simp only [load, parsed, refused]

theorem load_of_made (parsed : Yaml.Document.value settingDepth text = .ok value)
    (directory : List Text) {made : Config} (isMade : ofValue value env = .ok made) :
    load directory text env = made.placeIn directory := by
  simp only [load, parsed, isMade]

theorem ofValue_of_settingsOf {entries : Entries} (has : settingsOf value = .ok entries)
    (env : Environment) : ofValue value env = (make entries env).result := by
  rw [ofValue, has]
  rfl

end Document

theorem load_eq_ok_iff {directory : List Text} {text : String} {env : Environment}
    {config : Config} :
    load directory text env = .ok config ↔
      ∃ entries fields, HasSettings text entries ∧ Loads directory entries env fields config := by
  constructor
  · intro loaded
    cases read : Yaml.Document.value settingDepth text with
    | error fault =>
        rw [load, read] at loaded
        cases loaded
    | ok value =>
        cases given : ofValue value env with
        | error rejection =>
            rw [load_of_refused read directory given] at loaded
            cases loaded
        | ok made =>
            rw [load_of_made read directory given] at loaded
            cases held : settingsOf value with
            | error rejection =>
                rw [ofValue, held] at given
                cases given
            | ok entries =>
                rw [ofValue_of_settingsOf held] at given
                obtain ⟨fields, loads⟩ := loads_of_make_ok given (placeIn_eq_ok_iff.mp loaded)
                exact ⟨entries, fields, ⟨value, read, settingsOf_eq_ok_iff.mp held⟩, loads⟩
  · intro ⟨entries, fields, ⟨value, read, holds⟩, loads⟩
    have given : ofValue value env = .ok (expanded fields env) := by
      rw [ofValue_of_settingsOf (settingsOf_eq_ok_iff.mpr holds), loads.make]
    rw [load_of_made read directory given]
    exact placeIn_eq_ok_iff.mpr loads.places

/-! ### Loading again -/

section Again

variable {directory : List Text} {entries : Entries} {env : Environment} {fields config : Config}

theorem Loads.debugLog_eq_none_iff (loads : Loads directory entries env fields config) :
    config.debugLog = none ↔ fields.debugLog = none := by
  have placed : config.debugLog = none ↔ expansion fields.debugLog env = none :=
    eq_none_iff_of_rel loads.places.debugLog
  rw [placed]
  constructor
  · intro absent
    cases set : fields.debugLog with
    | none => rfl
    | some text =>
        have expands := loads.logExpands
        rw [set] at absent expands
        exact absurd (fails_some_iff.mpr absent) expands
  · intro unset
    rw [unset]
    rfl

theorem Loads.map_suite (loads : Loads directory entries env fields config) :
    config.junit.map ReportTarget.suite = fields.junit.map ReportTarget.suite := by
  have placed : config.junit.map ReportTarget.suite =
      (expanded fields env).junit.map ReportTarget.suite :=
    map_eq_map_of_rel loads.places.junit fun moves => moves.suite
  rw [placed, expanded, Option.map_map]
  rfl

theorem loads_withDebugLog (loads : Loads directory entries env fields config)
    (absolute : ∀ path ∈ config.debugLog, Path.isAbsolute path)
    (plain : ∀ path ∈ config.debugLog, IsPlain path) :
    Loads directory (withDebugLog config.debugLog entries) (leftBy fields.debugLog env)
      { fields with debugLog := config.debugLog } config := by
  obtain ⟨same, unchanged, expands⟩ := expansion_of_plain plain (leftBy fields.debugLog env)
  constructor
  · exact validates_withDebugLog loads.valid loads.debugLog_eq_none_iff
  · exact loads.consistent
  · exact expands
  · dsimp only
    rw [unchanged]
    exact loads.reportExpands
  · constructor
    · exact loads.places.reporter
    · exact loads.places.verbose
    · dsimp only [expanded]
      rw [same]
      exact rel_self fun path isLog => place_of_absolute (absolute path isLog) directory
    · dsimp only [expanded]
      rw [unchanged]
      exact loads.places.junit

theorem junit_expanded_of_plain {report : Option ReportTarget}
    (plain : ∀ path ∈ report.map ReportTarget.path, IsPlain path) (fields : Config)
    (env : Environment) : (expanded { fields with junit := report } env).junit = report := by
  dsimp only [expanded]
  rw [(expansion_of_plain plain _).1]
  cases report <;> rfl

theorem isMoved_self {report : Option ReportTarget}
    (absolute : ∀ path ∈ report.map ReportTarget.path, Path.isAbsolute path)
    (directory : List Text) : Option.Rel (IsMoved directory) report report := by
  apply rel_self
  intro target isReport
  have isPath : target.path ∈ report.map ReportTarget.path := Option.mem_map_of_mem _ isReport
  exact ⟨place_of_absolute (absolute target.path isPath) directory, rfl⟩

theorem loads_withReport (loads : Loads directory entries env fields config)
    (absolute : ∀ path ∈ config.junit.map ReportTarget.path, Path.isAbsolute path)
    (plain : ∀ path ∈ config.junit.map ReportTarget.path, IsPlain path) :
    Loads directory (withReport (config.junit.map ReportTarget.path) entries) env
      { fields with junit := config.junit } config := by
  have asMany : config.junit = none ↔ fields.junit = none := by
    rw [← Option.map_eq_none_iff (f := ReportTarget.suite), loads.map_suite,
      Option.map_eq_none_iff]
  constructor
  · exact validates_withReport loads.valid loads.map_suite
  · have consistent := loads.consistent
    rw [isConsistent_iff] at consistent ⊢
    exact consistent.imp_left asMany.mpr
  · exact loads.logExpands
  · exact (expansion_of_plain plain _).2.2
  · constructor
    · exact loads.places.reporter
    · exact loads.places.verbose
    · exact loads.places.debugLog
    · rw [junit_expanded_of_plain plain fields]
      exact isMoved_self absolute directory

theorem loads_withPaths (loads : Loads directory entries env fields config)
    (absolute : ∀ path, config.HasPath path → Path.isAbsolute path)
    (plain : ∀ path, config.HasPath path → IsPlain path) (elsewhere : List Text)
    (anywhere : Environment) :
    Loads elsewhere
      (withReport (config.junit.map ReportTarget.path) (withDebugLog config.debugLog entries))
      anywhere config config := by
  have reporter : config.reporter = fields.reporter := loads.places.reporter
  have verbose : config.verbose = fields.verbose := loads.places.verbose
  have same : { fields with debugLog := config.debugLog, junit := config.junit } = config := by
    rw [← reporter, ← verbose]
  have plainLog := fun path isLog => plain path (.inl isLog)
  have plainReport := fun path isReport => plain path (.inr isReport)
  have plainJUnit := junit_expanded_of_plain plainReport config anywhere
  obtain ⟨sameLog, unchanged, logExpands⟩ := expansion_of_plain plainLog anywhere
  have moved : Loads directory _ _ { fields with debugLog := config.debugLog } config :=
    loads_withDebugLog loads (fun path isLog => absolute path (.inl isLog)) plainLog
  have consistent : config.isConsistent := by
    have whole := (loads_withReport moved (fun path isReport => absolute path (.inr isReport))
      plainReport).consistent
    rwa [same] at whole
  have valid := validates_withReport moved.valid moved.map_suite
  rw [same] at valid
  refine ⟨valid, consistent, logExpands, (expansion_of_plain plainReport _).2.2, ?_⟩
  constructor
  · rfl
  · rfl
  · dsimp only [expanded]
    rw [sameLog]
    exact rel_self fun path isLog => place_of_absolute (absolute path (.inl isLog)) elsewhere
  · rw [plainJUnit]
    exact isMoved_self (fun path isReport => absolute path (.inr isReport)) elsewhere

end Again

/--
A configuration that is loaded is what the settings of its document make, with each path placed: one
that is relative once it has been expanded stands at the normal form of the directory with the path
behind it, an absolute one is kept as it is. A document with paths as they were found loads the same
again, if they have no references in them: with all of them in any directory and any environment;
with one of them where it was loaded, after what the expansion of that one has assigned.
-/
theorem loaded_paths_stand_alone {directory : List Text}
    (normal : ∀ part ∈ directory, Path.isNormalPart part) {text : String} {env : Environment}
    {config : Config} (loaded : load directory text env = .ok config) :
    ∃ entries fields made,
      HasSettings text entries ∧ Validates entries fields ∧ (make entries env).result = .ok made ∧
      config.reporter = made.reporter ∧ config.verbose = made.verbose ∧
      config.junit.map ReportTarget.suite = made.junit.map ReportTarget.suite ∧
      Option.Rel (IsPlaced directory) made.debugLog config.debugLog ∧
      Option.Rel (IsPlaced directory) (made.junit.map ReportTarget.path)
        (config.junit.map ReportTarget.path) ∧
      (∀ path, config.HasPath path → Path.isAbsolute path) ∧
      let report := config.junit.map ReportTarget.path
      (∀ again,
        HasSettings again (withReport report (withDebugLog config.debugLog entries)) →
        (∀ path, config.HasPath path → IsPlain path) →
        ∀ elsewhere anywhere, load elsewhere again anywhere = .ok config) ∧
      (∀ again, HasSettings again (withDebugLog config.debugLog entries) →
        (∀ path ∈ config.debugLog, IsPlain path) →
        load directory again (leftBy fields.debugLog env) = .ok config ∧
          (pathAssignees fields.debugLog = [] → load directory again env = .ok config)) ∧
      (∀ again, HasSettings again (withReport report entries) →
        (∀ path ∈ report, IsPlain path) → load directory again env = .ok config) := by
  obtain ⟨entries, fields, has, loads⟩ := load_eq_ok_iff.mp loaded
  have placedLog : Option.Rel (IsPlaced directory) (expanded fields env).debugLog config.debugLog :=
    rel_of_rel loads.places.debugLog (isPlaced_of_place_eq_ok normal)
  have placedReport : Option.Rel (IsPlaced directory)
      ((expanded fields env).junit.map ReportTarget.path) (config.junit.map ReportTarget.path) :=
    rel_map (rel_of_rel loads.places.junit fun moves => isPlaced_of_place_eq_ok normal moves.path)
  have absolute : ∀ path, config.HasPath path → Path.isAbsolute path := by
    intro path has
    rcases has with isLog | isReport
    · rw [isLog] at placedLog
      obtain ⟨before, placed⟩ := exists_of_rel_some placedLog
      exact placed.isAbsolute
    · rw [isReport] at placedReport
      obtain ⟨before, placed⟩ := exists_of_rel_some placedReport
      exact placed.isAbsolute
  refine ⟨entries, fields, expanded fields env, has, loads.valid, loads.make, loads.places.reporter,
    loads.places.verbose, ?_, placedLog, placedReport, absolute, ?_, ?_, ?_⟩
  · exact map_eq_map_of_rel loads.places.junit fun moves => moves.suite
  · intro again hasAgain plain elsewhere anywhere
    exact load_eq_ok_iff.mpr
      ⟨_, _, hasAgain, loads_withPaths loads absolute plain elsewhere anywhere⟩
  · intro again hasAgain plain
    have loadsAgain : load directory again (leftBy fields.debugLog env) = .ok config :=
      load_eq_ok_iff.mpr ⟨_, _, hasAgain,
        loads_withDebugLog loads (fun path isLog => absolute path (.inl isLog)) plain⟩
    refine ⟨loadsAgain, ?_⟩
    intro nothing
    rw [(leftBy_settles fields.debugLog env).same nothing] at loadsAgain
    exact loadsAgain
  · intro again hasAgain plain
    exact load_eq_ok_iff.mpr ⟨_, _, hasAgain,
      loads_withReport loads (fun path isReport => absolute path (.inr isReport)) plain⟩

/-- A path that is relative as its variable says. -/
theorem loaded_path_of_variable :
    let env := Environment.empty.assign "L" "../x"
    let config : Config := ⟨.raising, some "/a/x", false, none⟩
    load ["a", "b"] "debug_log: $L\n" env = .ok config ∧
      ∀ elsewhere anywhere, load elsewhere "debug_log: /a/x\n" anywhere = .ok config := by
  intro env config
  have loaded : load ["a", "b"] "debug_log: $L\n" env = .ok config := by
    have found : (load ["a", "b"] "debug_log: $L\n" env).toOption = some config := by decide +kernel
    cases ran : load ["a", "b"] "debug_log: $L\n" env with
    | error fault =>
        rw [ran] at found
        cases found
    | ok other =>
        rw [ran] at found
        rw [Option.some.inj found]
  have read : Yaml.Document.value settingDepth "debug_log: $L\n" =
      .ok (.dict [(.text "debug_log", .text "$L")]) := by cbv
  have readAgain : Yaml.Document.value settingDepth "debug_log: /a/x\n" =
      .ok (.dict [(.text "debug_log", .text "/a/x")]) := by cbv
  have set : HasSettings "debug_log: $L\n" (settings [(.text "debug_log", .text "$L")]) :=
    ⟨_, read, _, rfl, rfl⟩
  refine ⟨loaded, ?_⟩
  obtain ⟨entries, fields, made, has, -, -, -, -, -, -, -, -, again, -⟩ :=
    loaded_paths_stand_alone (by decide) loaded
  rw [has.unique set] at again
  apply again _ ⟨_, readAgain, _, rfl, rfl⟩
  intro path isPath
  rcases isPath with isLog | isReport
  · cases isLog
    exact ⟨by decide, by decide⟩
  · cases isReport

end TypeLaws.Config
