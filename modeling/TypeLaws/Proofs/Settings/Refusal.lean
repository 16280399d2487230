import Mathlib
import TypeLaws.Proofs.Settings.Placement

/-!
How the loading of a document ends. Complaints are made about settings under texts only, and only
before their paths are placed. A document of another kind is refused without complaints, or taken for
one without settings if it is empty; and so is a path with a part that cannot stand in a name.
-/

namespace TypeLaws.Config

/-! ### Complaints -/

theorem complaintOf_eq_nil_iff {α : Type} {key : String} {result : Except Problem α} :
    complaintOf key result = [] ↔ ∃ setting, result = .ok setting := by
  cases result <;> simp [complaintOf]

theorem eq_nil_of_orBroken_eq_nil {entries : Entries} {complaints : List Complaint}
    (nothing : orBroken entries complaints = []) : complaints = [] := by
  unfold orBroken at nothing
  split at nothing
  · cases nothing
  · exact nothing

theorem readTarget_complains {entries : Entries} {complaints : List Complaint}
    (refused : readTarget entries = .error complaints) : complaints ≠ [] := by
  intro nothing
  unfold readTarget at refused
  extract_lets path suite at refused
  split at refused
  next => cases refused
  next accepted =>
    cases refused
    have silent := eq_nil_of_orBroken_eq_nil nothing
    rw [List.append_eq_nil_iff, List.append_eq_nil_iff, complaintOf_eq_nil_iff,
      complaintOf_eq_nil_iff] at silent
    obtain ⟨⟨⟨_, isPath⟩, ⟨_, isSuite⟩⟩, known⟩ := silent
    exact accepted _ _ isPath isSuite known

theorem readGroup_complains {entries : Entries} {complaints : List Complaint}
    (refused : readGroup entries = .error complaints) : complaints ≠ [] := by
  cases read : readTarget entries with
  | ok target =>
      rw [readGroup, read] at refused
      cases refused
  | error inner =>
      rw [readGroup, read] at refused
      cases refused
      exact mt List.map_eq_nil_iff.mp (readTarget_complains read)

theorem readJUnit_complains {setting : Setting} {complaints : List Complaint}
    (refused : readJUnit setting = .error complaints) : complaints ≠ [] := by
  cases setting with
  | value value =>
      cases value with
      | dict entries => exact readGroup_complains refused
      | null => cases refused
      | _ =>
          cases refused
          exact List.cons_ne_nil _ _
  | row entries => exact readGroup_complains refused
  | target target => cases refused
  | object reporter words truth =>
      cases refused
      exact List.cons_ne_nil _ _

theorem ofEntries_complains {entries : Entries} {complaints : List Complaint}
    (refused : ofEntries entries = .error complaints) : complaints ≠ [] := by
  intro nothing
  unfold ofEntries at refused
  extract_lets reporter debugLog verbose junit at refused
  split at refused
  next => cases refused
  next accepted =>
    cases refused
    have silent := eq_nil_of_orBroken_eq_nil nothing
    simp only [List.append_eq_nil_iff, complaintOf_eq_nil_iff] at silent
    obtain ⟨⟨⟨⟨⟨_, isReporter⟩, ⟨_, isDebugLog⟩⟩, ⟨_, isVerbose⟩⟩, inJUnit⟩, known⟩ := silent
    cases isJUnit : junit with
    | ok report => exact accepted _ _ _ _ isReporter isDebugLog isVerbose isJUnit known
    | error inner =>
        rw [isJUnit] at inJUnit
        subst junit
        split at isJUnit
        · exact readJUnit_complains isJUnit inJUnit
        · cases isJUnit

theorem make_complains {entries : Entries} {env : Environment} {rejection : Rejection}
    (keysAreText : ∀ entry ∈ entries, entry.1.kind = "str")
    (refused : (make entries env).result = .error rejection) :
    ∃ complaints, complaints ≠ [] ∧ rejection = .invalid complaints := by
  have noOther : ¬(entries.any fun entry => entry.1.kind != "str") := by
    simpa using keysAreText
  cases read : ofEntries entries with
  | error complaints =>
      rw [make, if_neg noOther, read] at refused
      cases refused
      exact ⟨complaints, ofEntries_complains read, rfl⟩
  | ok fields =>
      obtain ⟨reason, -⟩ := make_refused_of_validates (ofEntries_eq_ok_iff.mp read) refused
      rcases reason with ⟨rfl, -⟩ | ⟨rfl, -⟩
      · exact ⟨_, List.cons_ne_nil _ _, rfl⟩
      · exact ⟨_, List.cons_ne_nil _ _, rfl⟩

theorem make_of_other_keys {entries : Entries} (other : ∃ entry ∈ entries, entry.1.kind ≠ "str")
    (env : Environment) : make entries env = ⟨.error .keysNotText, entries, env⟩ := by
  have isOther : entries.any fun entry => entry.1.kind != "str" := by
    simpa using other
  rw [make, if_pos isOther]

/-! ### Places -/

section PlaceIn

variable {directory : List Text} {made : Config} {path : Text} {fault : LoadFault}

theorem placeIn_of_log_stops (isLog : made.debugLog = some path)
    (stops : StopsAt directory path fault) : made.placeIn directory = .error fault := by
  rw [placeIn, isLog, Work.mapM_some, place_of_stopsAt stops]
  rfl

theorem placeIn_of_report_stops (logPlaces : ∃ log, made.debugLog.mapM (place directory) = .ok log)
    (isReport : made.junit.map ReportTarget.path = some path)
    (stops : StopsAt directory path fault) : made.placeIn directory = .error fault := by
  obtain ⟨log, isLog⟩ := logPlaces
  obtain ⟨target, isTarget, rfl⟩ := Option.map_eq_some_iff.mp isReport
  rw [placeIn, isLog, isTarget, Work.mapM_some, place_of_stopsAt stops]
  rfl

theorem exists_place_eq_ok (free : ∀ fault, ¬StopsAt directory path fault) :
    ∃ placed, place directory path = .ok placed := by
  rcases place_cases directory path with ⟨-, kept⟩ | ⟨-, moved⟩ | ⟨fault, stops⟩
  · exact ⟨path, kept⟩
  · exact ⟨_, moved⟩
  · exact absurd stops (free fault)

theorem exists_log_eq_ok (free : ∀ path ∈ made.debugLog, ∀ fault, ¬StopsAt directory path fault) :
    ∃ log, made.debugLog.mapM (place directory) = .ok log := by
  cases isLog : made.debugLog with
  | none => exact ⟨none, rfl⟩
  | some path =>
      obtain ⟨placed, places⟩ := exists_place_eq_ok (free path isLog)
      refine ⟨some placed, ?_⟩
      rw [Work.mapM_some, places]
      rfl

theorem exists_placeIn_eq_ok
    (free : ∀ path, made.HasPath path → ∀ fault, ¬StopsAt directory path fault) :
    ∃ config, made.placeIn directory = .ok config := by
  obtain ⟨log, isLog⟩ := exists_log_eq_ok fun path isLog => free path (.inl isLog)
  cases isJUnit : made.junit with
  | none =>
      refine ⟨{ made with debugLog := log, junit := none }, ?_⟩
      rw [placeIn, isLog, isJUnit]
      rfl
  | some target =>
      have isReport : made.junit.map ReportTarget.path = some target.path := by
        rw [isJUnit]
        rfl
      obtain ⟨placed, places⟩ := exists_place_eq_ok (free target.path (.inr isReport))
      refine ⟨{ made with debugLog := log, junit := some { target with path := placed } }, ?_⟩
      rw [placeIn, isLog, isJUnit, Work.mapM_some, places]
      rfl

end PlaceIn

/-! ### Documents -/

section Document

variable {text : String} {value : Value} {env : Environment}

theorem ofValue_of_not_isTrue (empty : ¬value.isTrue) (env : Environment) :
    ofValue value env = (make [] env).result :=
  ofValue_of_settingsOf (settingsOf_eq_ok_iff.mpr (by rw [if_neg empty])) env

theorem ofValue_of_not_dict (isTrue : value.isTrue)
    (other : ∀ entries, value ≠ .dict entries) (env : Environment) :
    ofValue value env = .error (.notMapping value.kind) := by
  unfold ofValue settingsOf
  rw [if_pos isTrue]
  cases value with
  | dict entries => exact absurd rfl (other entries)
  | _ => rfl

theorem ofValue_dict (rows : List (Value × Value)) (env : Environment) :
    ofValue (.dict rows) env = (make (settings rows) env).result := by
  cases rows with
  | nil => rfl
  | cons entry rest => rfl

end Document

/--
What becomes of a document by its value. An empty value of any kind loads as if there were no settings.
Another value that is no mapping, and a mapping with a key that is no text, are refused by their kind
before any setting is looked at. Settings under texts are made to a configuration or refused with at
least one complaint; and one that is made is loaded unless a path of it, once it has been expanded, is
relative and has a part that cannot stand in a name. The first such part is then at fault, that of the
debug log before that of the report.
-/
theorem only_settings_under_texts_are_validated {text : String} {value : Value}
    (parsed : Yaml.Document.value settingDepth text = .ok value) (directory : List Text)
    (env : Environment) :
    let result := load directory text env
    (¬value.isTrue → result = .ok ⟨.raising, none, false, none⟩) ∧
      (value.isTrue → (∀ rows, value ≠ .dict rows) →
        result = .error (.rejected (.notMapping value.kind))) ∧
      ∀ rows, value = .dict rows →
        ((∃ row ∈ rows, row.1.kind ≠ "str") → result = .error (.rejected .keysNotText)) ∧
        ((∀ row ∈ rows, row.1.kind = "str") →
          (∀ rejection, (make (settings rows) env).result = .error rejection →
            ∃ complaints, complaints ≠ [] ∧ rejection = .invalid complaints ∧
              result = .error (.rejected (.invalid complaints))) ∧
          ∀ made, (make (settings rows) env).result = .ok made →
            (∀ path ∈ made.debugLog, ∀ fault, StopsAt directory path fault →
              result = .error fault) ∧
            ((∀ path ∈ made.debugLog, ∀ fault, ¬StopsAt directory path fault) →
              ∀ path ∈ made.junit.map ReportTarget.path, ∀ fault, StopsAt directory path fault →
                result = .error fault) ∧
            ((∀ path, made.HasPath path → ∀ fault, ¬StopsAt directory path fault) →
              ∃ config, result = .ok config)) := by
  intro result
  refine ⟨?_, ?_, ?_⟩
  · intro empty
    have isMade : ofValue value env = .ok ⟨.raising, none, false, none⟩ := by
      rw [ofValue_of_not_isTrue empty]
      rfl
    exact load_of_made parsed directory isMade
  · intro isTrue other
    exact load_of_refused parsed directory (ofValue_of_not_dict isTrue other env)
  · rintro rows rfl
    have made := ofValue_dict rows env
    refine ⟨?_, fun keysAreText => ⟨?_, ?_⟩⟩
    · intro ⟨row, isRow, other⟩
      have isSetting : (row.1, Setting.value row.2) ∈ settings rows :=
        List.mem_map.mpr ⟨row, isRow, rfl⟩
      rw [make_of_other_keys ⟨_, isSetting, other⟩] at made
      exact load_of_refused parsed directory made
    · intro rejection refused
      have areText : ∀ entry ∈ settings rows, entry.1.kind = "str" := by
        intro entry isSetting
        obtain ⟨row, isRow, rfl⟩ := List.mem_map.mp isSetting
        exact keysAreText row isRow
      obtain ⟨complaints, some, rfl⟩ := make_complains areText refused
      rw [← made] at refused
      exact ⟨complaints, some, rfl, load_of_refused parsed directory refused⟩
    · intro config isMade
      rw [← made] at isMade
      have ends := load_of_made parsed directory isMade
      refine ⟨?_, ?_, ?_⟩
      · intro path isLog fault stops
        exact ends.trans (placeIn_of_log_stops isLog stops)
      · intro free path isReport fault stops
        exact ends.trans (placeIn_of_report_stops (exists_log_eq_ok free) isReport stops)
      · intro free
        obtain ⟨placed, isPlaced⟩ := exists_placeIn_eq_ok free
        exact ⟨placed, ends.trans isPlaced⟩

theorem value_of_row :
    Yaml.Document.value settingDepth "- a\n" = .ok (.list [.text "a"]) := by
  cbv

/--
A row, an empty one, a key that is no text, an unknown one, and paths with a null character and with a
half that stands for no byte.
-/
theorem documents_of_each_kind_are_validated_or_not :
    load ["d"] "- a\n" .empty = .error (.rejected (.notMapping "list")) ∧
      load ["d"] "[]\n" .empty = .ok ⟨.raising, none, false, none⟩ ∧
      load ["d"] "1: a\n" .empty = .error (.rejected .keysNotText) ∧
      (∃ complaints, complaints ≠ [] ∧
        load ["d"] "a: a\n" .empty = .error (.rejected (.invalid complaints))) ∧
      load ["d"] "debug_log: \"a\\0b\"\n" .empty = .error .nullCharacter ∧
      load ["d"] "debug_log: \"\\ud800\"\n" .empty =
        .error (.unencodable [.char '/', .char 'd', .char '/', .half 0]) := by
  refine ⟨?_, ?_, ?_, ?_, ?_, ?_⟩
  · refine (only_settings_under_texts_are_validated value_of_row ["d"] .empty).2.1 (by decide) ?_
    intro _ isDict
    cases isDict
  · have parsed : Yaml.Document.value settingDepth "[]\n" = .ok (.list []) := by cbv
    exact (only_settings_under_texts_are_validated parsed ["d"] .empty).1 (by decide)
  · have parsed : Yaml.Document.value settingDepth "1: a\n" =
        .ok (.dict [(.int 1, .text "a")]) := by cbv
    exact ((only_settings_under_texts_are_validated parsed ["d"] .empty).2.2 _ rfl).1
      ⟨_, List.mem_singleton_self _, by decide⟩
  · have parsed : Yaml.Document.value settingDepth "a: a\n" =
        .ok (.dict [(.text "a", .text "a")]) := by cbv
    have isText : ∀ row ∈ [(Value.text "a", Value.text "a")], row.1.kind = "str" := by decide
    have refused : (make (settings [(.text "a", .text "a")]) .empty).result =
        .error (.invalid [⟨[.key "a"], .unknownKey⟩]) := by cbv
    obtain ⟨complaints, some, -, ends⟩ :=
      (((only_settings_under_texts_are_validated parsed ["d"] .empty).2.2 _ rfl).2 isText).1 _ refused
    exact ⟨complaints, some, ends⟩
  · have parsed : Yaml.Document.value settingDepth "debug_log: \"a\\0b\"\n" =
        .ok (.dict [(.text "debug_log", .text "a\x00b")]) := by cbv
    have isText : ∀ row ∈ [(Value.text "debug_log", Value.text "a\x00b")], row.1.kind = "str" := by
      decide
    have isMade : (make (settings [(.text "debug_log", .text "a\x00b")]) .empty).result =
        .ok ⟨.raising, some "a\x00b", false, none⟩ := by cbv
    have stops : StopsAt ["d"] "a\x00b" .nullCharacter :=
      ⟨by decide, [], "a\x00b", [], by decide, List.forall_mem_nil _, by decide, by decide⟩
    exact ((((only_settings_under_texts_are_validated parsed ["d"] .empty).2.2 _ rfl).2 isText).2
      _ isMade).1 _ rfl _ stops
  · have parsed : Yaml.Document.value settingDepth "debug_log: \"\\ud800\"\n" =
        .ok (.dict [(.text "debug_log", .brokenText [.half 0] rfl)]) := by cbv
    have isText : ∀ row ∈ [(Value.text "debug_log", Value.brokenText [.half 0] rfl)],
        row.1.kind = "str" := by
      decide
    have isMade : (make (settings [(.text "debug_log", .brokenText [.half 0] rfl)]) .empty).result =
        .ok ⟨.raising, some [.half 0], false, none⟩ := by cbv
    have stops : StopsAt ["d"] [.half 0]
        (.unencodable [.char '/', .char 'd', .char '/', .half 0]) :=
      ⟨by decide, [], [.half 0], [], by decide, List.forall_mem_nil _, by decide, by decide⟩
    exact ((((only_settings_under_texts_are_validated parsed ["d"] .empty).2.2 _ rfl).2 isText).2
      _ isMade).1 _ rfl _ stops

/-- A row of one text is no mapping, and is refused for that with no complaint about a place in it. -/
theorem list_is_refused_without_complaint :
    Yaml.Document.value settingDepth "- a\n" = .ok (.list [.text "a"]) ∧
      ∃ rejection, load ["d"] "- a\n" .empty = .error (.rejected rejection) ∧
        ∀ complaints, rejection ≠ .invalid complaints := by
  refine ⟨value_of_row, .notMapping "list", ?_, ?_⟩
  · rw [load, value_of_row]
    rfl
  · rintro _ ⟨⟩

end TypeLaws.Config
