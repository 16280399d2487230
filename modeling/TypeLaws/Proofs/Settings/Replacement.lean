import TypeLaws.Proofs.Settings.Acceptance
import TypeLaws.Proofs.Work

/-!
Settings with other paths in them. Where a path takes the place of another one the settings stay
right one by one, and nothing else about them changes; a path without references is expanded to
itself in every environment.
-/

namespace TypeLaws.Settings

/-- Nothing in a text has a meaning in templates. -/
def IsPlain (text : Text) : Prop :=
  .char '$' ∉ text ∧ .char '\\' ∉ text

theorem read_of_plain {text : Text} (plain : IsPlain text) :
    Template.read text = text.map .literal := by
  obtain ⟨noDollar, noEscape⟩ := plain
  induction text with
  | nil => rw [Template.read, List.map_nil]
  | cons point rest ih =>
      rw [List.mem_cons, not_or] at noDollar noEscape
      rw [Template.read, ih noDollar.2 noEscape.2, List.map_cons]
      · exact fun _ isEscape => absurd isEscape.symm noEscape.1
      · exact fun _ isEscape => absurd isEscape.symm noEscape.1
      · exact fun isEscape => absurd isEscape.symm noEscape.1
      · exact fun isDollar => absurd isDollar.symm noDollar.1

theorem fill_literals (strict : Bool) (text : Text) (env : Environment) :
    (Expansion.fill strict (text.map .literal)).run.run env = (.ok text, env) := by
  induction text with
  | nil => rfl
  | cons point rest ih =>
      have front : (Expansion.fillPiece strict (.literal point)).run.run env =
          (.ok [point], env) := rfl
      rw [List.map_cons, Expansion.fill, Work.run_bind, front]
      dsimp only
      rw [Work.run_bind, ih]
      rfl

theorem expand_of_plain {text : Text} (plain : IsPlain text) (env : Environment) :
    expand text env = (.ok text, env) := by
  rw [expand, read_of_plain plain, fill_literals]

end TypeLaws.Settings

namespace TypeLaws.Config

open Settings (IsPlain)

def HasPath (config : Config) (path : Text) : Prop :=
  config.debugLog = some path ∨ config.junit.map ReportTarget.path = some path

theorem expansion_of_plain {path : Option Text} (plain : ∀ text ∈ path, IsPlain text)
    (env : Environment) :
    expansion path env = path ∧ leftBy path env = env ∧ ¬Fails path env := by
  cases path with
  | none => exact ⟨rfl, rfl, nofun⟩
  | some text =>
      have ran := Settings.expand_of_plain (plain text rfl) env
      have expands : expansion (some text) env = some text := by
        rw [expansion, Option.bind_some, ran]
        rfl
      refine ⟨expands, congrArg Prod.snd ran, ?_⟩
      rw [fails_some_iff, expands]
      intro lost
      cases lost

theorem beq_text_iff (value : Value) (s : String) : (value == .text s) = true ↔ value = .text s := by
  change value.equal (.text s) = true ↔ _
  cases value <;> simp [Value.equal, Value.asInt?]

section Rows

variable {α : Type}

theorem setting?_cons (entry : Value × α) (rest : List (Value × α)) (key : String) :
    setting? (entry :: rest) key =
      if entry.1 == .text key then some entry.2 else setting? rest key := by
  unfold setting?
  rw [List.find?_cons]
  cases entry.1 == .text key <;> rfl

def withSetting (key : String) (value : α) (entries : List (Value × α)) : List (Value × α) :=
  entries.map fun entry => if entry.1 == .text key then (entry.1, value) else entry

theorem fst_withSetting (key : String) (value : α) (entries : List (Value × α)) :
    (withSetting key value entries).map Prod.fst = entries.map Prod.fst := by
  rw [withSetting, List.map_map]
  apply List.map_congr_left
  intro entry _
  dsimp only [Function.comp]
  split <;> rfl

theorem setting?_withSetting (key other : String) (value : α) (entries : List (Value × α)) :
    setting? (withSetting key value entries) other =
      if other = key then (setting? entries other).map fun _ => value
      else setting? entries other := by
  induction entries with
  | nil =>
      change (none : Option α) = _
      split <;> rfl
  | cons entry rest ih =>
      have front : withSetting key value (entry :: rest) =
          (if entry.1 == .text key then (entry.1, value) else entry) ::
            withSetting key value rest := rfl
      rw [front, setting?_cons, setting?_cons, ih]
      by_cases isKey : entry.1 = .text key
      · rw [if_pos ((beq_text_iff _ _).mpr isKey), isKey]
        by_cases same : other = key
        · rw [same]
          simp [beq_text_iff]
        · simp [beq_text_iff, same, Ne.symm same]
      · rw [if_neg (mt (beq_text_iff _ _).mp isKey)]
        by_cases same : other = key
        · rw [same]
          simp [beq_text_iff, isKey]
        · simp [same]

theorem known_withSetting {known : List String} {entries : List (Value × α)}
    (areKnown : ∀ entry ∈ entries, ∃ name ∈ known, entry.1 = .text name) (key : String)
    (value : α) : ∀ entry ∈ withSetting key value entries, ∃ name ∈ known, entry.1 = .text name := by
  intro entry member
  have isKey : entry.1 ∈ (withSetting key value entries).map Prod.fst :=
    List.mem_map_of_mem (f := Prod.fst) member
  rw [fst_withSetting, List.mem_map] at isKey
  obtain ⟨original, isOriginal, same⟩ := isKey
  rw [← same]
  exact areKnown original isOriginal

end Rows

theorem settings_withSetting (key : String) (value : Value) (entries : List (Value × Value)) :
    settings (withSetting key value entries) = withSetting key (.value value) (settings entries) := by
  rw [settings, settings, withSetting, withSetting, List.map_map, List.map_map]
  refine List.map_congr_left fun entry _ => ?_
  rw [Function.comp_apply, Function.comp_apply]
  split <;> rfl

def withDebugLog (path : Option Text) (entries : Entries) : Entries :=
  match path with
  | some text => withSetting "debug_log" (.value (.ofText text)) entries
  | none => entries

/-- A report that is set, with another path. -/
def Setting.withPath (path : Text) : Setting → Setting
  | .value (.dict report) => .value (.dict (withSetting "path" (.ofText path) report))
  | .row report => .row (withSetting "path" (.value (.ofText path)) report)
  | .target old => .target { old with path }
  | setting => setting

/-- The settings with a path in place of that of the report that was set. -/
def withReport (path : Option Text) (entries : Entries) : Entries :=
  match path, setting? entries "junit" with
  | some text, some setting => withSetting "junit" (setting.withPath text) entries
  | _, _ => entries

theorem textOf_ofText (text : Text) : textOf (.ofText text) = .ok text := by
  unfold Value.ofText
  split
  · next chars read =>
      rw [textOf, Text.ofString, String.toList_ofList, Text.ofChars_of_chars? read]
  · rfl

theorem readOr_withSetting_of_ne {α : Type} {key other : String} (different : other ≠ key)
    (setting : Setting) (entries : Entries) (default : α) (read : Setting → Except Problem α) :
    readOr (withSetting key setting entries) other default read =
      readOr entries other default read := by
  rw [readOr, readOr, setting?_withSetting, if_neg different]

theorem exists_setting_of_readOr {α : Type} {entries : Entries} {key : String} {default result : α}
    {read : Setting → Except Problem α} (reads : readOr entries key default read = .ok result)
    (isOther : result ≠ default) : ∃ setting, setting? entries key = some setting := by
  cases found : setting? entries key with
  | some setting => exact ⟨setting, rfl⟩
  | none =>
      rw [readOr, found] at reads
      exact absurd (Except.ok.inj reads).symm isOther

theorem readOptionalText_ofText (text : Text) :
    readOptionalText (.value (.ofText text)) = .ok (some text) := by
  have isText : ∀ value : Value, value = .ofText text → value ≠ .null := by
    rintro value rfl isNull
    have read := textOf_ofText text
    rw [isNull] at read
    cases read
  unfold readOptionalText
  split
  · next isNull => exact absurd (Setting.value.inj isNull) (isText _ rfl)
  · rw [readText, textOf_ofText]
    rfl

theorem validates_withDebugLog {entries : Entries} {fields : Config}
    (valid : Validates entries fields) {path : Option Text}
    (sets : path = none ↔ fields.debugLog = none) :
    Validates (withDebugLog path entries) { fields with debugLog := path } := by
  cases path with
  | none =>
      have same : { fields with debugLog := none } = fields := by rw [← sets.mp rfl]
      rw [same]
      exact valid
  | some text =>
      have isSet : fields.debugLog ≠ none := fun unset => nomatch sets.mpr unset
      obtain ⟨setting, found⟩ := exists_setting_of_readOr valid.debugLog isSet
      constructor
      · dsimp only [withDebugLog]
        rw [readOr_withSetting_of_ne (by decide)]
        exact valid.reporter
      · rw [withDebugLog, readOr, setting?_withSetting, found]
        exact readOptionalText_ofText text
      · rw [withDebugLog, readOr_withSetting_of_ne (by decide)]
        exact valid.verbose
      · rw [withDebugLog, setting?_withSetting]
        exact valid.junit
      · exact known_withSetting valid.known _ _

theorem readTarget_eq_ok_iff {entries : Entries} {target : ReportTarget} :
    readTarget entries = .ok target ↔
      readRequired entries "path" readText = .ok target.path ∧
        readOr entries "suite_name" (.ofString JUnit.defaultSuite) readSuite = .ok target.suite ∧
        ∀ entry ∈ entries, ∃ name ∈ reportKeys, entry.1 = .text name := by
  unfold readTarget
  extract_lets path suite
  constructor
  · intro accepted
    split at accepted
    next isPath isSuite nothing =>
      cases accepted
      exact ⟨isPath, isSuite, keyComplaints_eq_nil_iff.mp nothing⟩
    next => cases accepted
  · intro ⟨isPath, isSuite, known⟩
    rw [show path = _ from isPath, show suite = _ from isSuite, keyComplaints_eq_nil_iff.mpr known]

theorem readTarget_withSetting {entries : Entries} {target : ReportTarget}
    (read : readTarget entries = .ok target) (text : Text) :
    readTarget (withSetting "path" (.value (.ofText text)) entries) =
      .ok { target with path := text } := by
  obtain ⟨isPath, isSuite, known⟩ := readTarget_eq_ok_iff.mp read
  apply readTarget_eq_ok_iff.mpr
  refine ⟨?_, ?_, known_withSetting known _ _⟩
  · cases found : setting? entries "path" with
    | none =>
        rw [readRequired, found] at isPath
        cases isPath
    | some setting =>
        rw [readRequired, setting?_withSetting, found]
        exact textOf_ofText text
  · rw [readOr_withSetting_of_ne (by decide)]
    exact isSuite

theorem readGroup_eq_ok_some_iff {entries : Entries} {target : ReportTarget} :
    readGroup entries = .ok (some target) ↔ readTarget entries = .ok target := by
  unfold readGroup
  cases readTarget entries <;> simp

theorem readJUnit_withPath {setting : Setting} {target : ReportTarget}
    (read : readJUnit setting = .ok (some target)) (text : Text) :
    readJUnit (setting.withPath text) = .ok (some { target with path := text }) := by
  have inGroup {entries : Entries} (read : readGroup entries = .ok (some target)) :
      readGroup (withSetting "path" (.value (.ofText text)) entries) =
        .ok (some { target with path := text }) :=
    readGroup_eq_ok_some_iff.mpr (readTarget_withSetting (readGroup_eq_ok_some_iff.mp read) text)
  cases setting with
  | value value =>
      cases value with
      | dict entries =>
          rw [Setting.withPath, readJUnit, settings_withSetting]
          exact inGroup read
      | _ => cases read
  | row entries => exact inGroup read
  | target old =>
      cases read
      rfl
  | object reporter words truth => cases read

theorem validates_withReport {entries : Entries} {fields : Config}
    (valid : Validates entries fields) {report : Option ReportTarget}
    (sameSuite : report.map ReportTarget.suite = fields.junit.map ReportTarget.suite) :
    Validates (withReport (report.map ReportTarget.path) entries)
      { fields with junit := report } := by
  cases report with
  | none =>
      have unset : fields.junit = none := Option.map_eq_none_iff.mp sameSuite.symm
      have same : { fields with junit := none } = fields := by rw [← unset]
      rw [same]
      exact valid
  | some target =>
      obtain ⟨old, isOld, suite⟩ := Option.map_eq_some_iff.mp sameSuite.symm
      have read := valid.junit
      rw [isOld] at read
      cases found : setting? entries "junit" with
      | none =>
          rw [found] at read
          cases read
      | some setting =>
          rw [found] at read
          have replaced : withReport ((some target).map ReportTarget.path) entries =
              withSetting "junit" (setting.withPath target.path) entries := by
            unfold withReport
            rw [found]
            rfl
          rw [replaced]
          constructor
          · rw [readOr_withSetting_of_ne (by decide)]
            exact valid.reporter
          · rw [readOr_withSetting_of_ne (by decide)]
            exact valid.debugLog
          · rw [readOr_withSetting_of_ne (by decide)]
            exact valid.verbose
          · rw [setting?_withSetting, found]
            simp only [if_true, Option.map_some, readJUnit_withPath read, suite]
          · exact known_withSetting valid.known _ _

end TypeLaws.Config
