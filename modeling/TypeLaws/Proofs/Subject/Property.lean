import TypeLaws.Proofs.Check.Agreement
import TypeLaws.Proofs.Subject.Navigation
import TypeLaws.Sample.System

/-!
The two checks about a property: that a type has it, and that it lacks it. Both first ask whether the
receiver is a literal object and then look the property up; what is wrong with the receiver is
reported by both of them alike. Only the last question, put to the subject of the property, sets them
apart, so a receiver with nothing wrong passes exactly one of them.
-/

namespace TypeLaws

variable {τ : Type}

/-- The methods that a check about a property of a type calls give results. -/
structure TypeSystem.TellsProperty (system : TypeSystem τ) (t : τ) (name : String) : Prop extends
    system.LooksUp t name where
  isLiteral : ∃ answer, system.ask t .isLiteralObject = .ok answer
  foundText : ∀ object found, system.objectView t = .ok (some object) →
    system.property object (.text name) = .ok (some found) → ∃ text, system.text found = .ok text

theorem Check.silent_iff_of_collectAll {α : Type} {check : Check α} {journal : Journal} {value : α}
    {failures : List Failure}
    (ran : check.runFrom .collecting journal = (.ok value, journal.collectAll failures)) :
    check.Silent .collecting journal ↔ failures = [] := by
  constructor
  · rintro ⟨_, reached, silent, unchanged⟩
    rw [ran] at silent
    cases silent
    rw [Journal.collectAll_failures] at unchanged
    exact List.append_right_eq_self.mp unchanged
  · rintro rfl
    exact ⟨value, _, ran, rfl⟩

namespace Subject

def absenceFailures (subject : Subject τ) : List Failure :=
  if subject.actual.isNone then
    [subject.failure "is_present" absenceFacts TypeSystem.absentText]
  else []

def presenceFacts : List Fact := [Fact.simple "expected an absent value"]

def presenceFailures (subject : Subject τ) (actualText : String) : List Failure :=
  if subject.actual.isSome then [subject.failure "is_absent" presenceFacts actualText] else []

variable {system : TypeSystem τ}

theorem runFrom_isPresent (subject : Subject τ) (journal : Journal) :
    (subject.isPresent system).runFrom .collecting journal =
      (.ok (), journal.collectAll subject.absenceFailures) := by
  unfold isPresent absenceFailures
  cases found : subject.actual with
  | none =>
      have shown : subject.debugText system = .ok TypeSystem.absentText := by
        rw [debugText, found]
        rfl
      exact subject.runFrom_fail_collecting system _ _ shown journal
  | some t => rfl

theorem runFrom_isAbsent {subject : Subject τ} {actualText : String}
    (shown : subject.debugText system = .ok actualText) (journal : Journal) :
    (subject.isAbsent system).runFrom .collecting journal =
      (.ok (), journal.collectAll (subject.presenceFailures actualText)) := by
  unfold isAbsent presenceFailures
  cases found : subject.actual with
  | none => rfl
  | some t => exact subject.runFrom_fail_collecting system _ _ shown journal

theorem absenceFailures_eq_nil_iff (subject : Subject τ) :
    subject.absenceFailures = [] ↔ ∃ t, subject.actual = some t := by
  unfold absenceFailures
  cases subject.actual <;> simp

theorem presenceFailures_eq_nil_iff (subject : Subject τ) (actualText : String) :
    subject.presenceFailures actualText = [] ↔ subject.actual = none := by
  unfold presenceFailures
  cases subject.actual <;> simp

variable (system) in
/-- What both checks report of the receiver: that it is no literal object, or no object type. -/
def receiverFailures (subject : Subject τ) : List Failure :=
  subject.refusals system "is_literal_object" .isLiteralObject ++ subject.lookUpFailures system

theorem runFrom_is_literalObject {subject : Subject τ}
    (answers : ∀ t, subject.actual = some t → ∃ answer, system.ask t .isLiteralObject = .ok answer)
    {actualText : String} (shown : subject.debugText system = .ok actualText) (journal : Journal) :
    (subject.is system .literalObject).runFrom .collecting journal =
      (.ok (), journal.collectAll
        (subject.refusals system "is_literal_object" .isLiteralObject)) := by
  have queried := runFrom_checkQuery_true answers shown "is_literal_object" journal
  exact Check.runFrom_bind_ok _ queried

variable (system) in
theorem runFrom_is_then_propertyType {subject child : Subject τ} {name : String}
    (answers : ∀ t, subject.actual = some t → ∃ answer, system.ask t .isLiteralObject = .ok answer)
    {actualText : String} (shown : subject.debugText system = .ok actualText)
    (looked : ∀ journal, (subject.propertyType system (.text name)).runFrom .collecting journal =
      (.ok child, journal.collectAll (subject.lookUpFailures system)))
    {next : Subject τ → Check Unit} {last : List Failure}
    (ends : ∀ journal, (next child).runFrom .collecting journal = (.ok (), journal.collectAll last))
    (journal : Journal) :
    (do
      subject.is system .literalObject
      next (← subject.propertyType system (.text name))).runFrom .collecting journal =
      (.ok (), journal.collectAll (subject.receiverFailures system ++ last)) := by
  rw [Check.runFrom_bind_ok _ (runFrom_is_literalObject answers shown journal),
    Check.runFrom_bind_ok _ (looked _), ends, receiverFailures, Journal.collectAll_append,
    Journal.collectAll_append]

theorem map_name_receiverFailures {subject : Subject τ} {name : String}
    (tells : ∀ t, subject.actual = some t → system.TellsProperty t name)
    {actualText : String} (shown : subject.debugText system = .ok actualText) :
    (subject.receiverFailures system).map Failure.name =
      (if system.affirms subject.actual .isLiteralObject then [] else ["is_literal_object"]) ++
        if system.affirms subject.actual .isObjectType then [] else ["with_type_of_prop"] := by
  rw [receiverFailures, lookUpFailures_eq_refusals, List.map_append,
    map_name_refusals (fun t found => (tells t found).isLiteral) shown,
    map_name_refusals (fun t found => (tells t found).isObject) shown]

theorem receiverFailures_eq_nil_iff {subject : Subject τ} {name : String}
    (tells : ∀ t, subject.actual = some t → system.TellsProperty t name)
    {actualText : String} (shown : subject.debugText system = .ok actualText) :
    subject.receiverFailures system = [] ↔
      system.affirms subject.actual .isLiteralObject = true ∧
        system.affirms subject.actual .isObjectType = true := by
  rw [← List.map_eq_nil_iff (f := Failure.name), map_name_receiverFailures tells shown]
  cases system.affirms subject.actual .isLiteralObject <;>
    cases system.affirms subject.actual .isObjectType <;> simp

theorem debugText_child {subject : Subject τ} {name : String}
    (tells : ∀ t, subject.actual = some t → system.TellsProperty t name) :
    ∃ shown, (subject.child system name).debugText system = .ok shown := by
  apply TypeSystem.debugText_of_text
  intro found isFound
  obtain ⟨-, t, object, isValue, viewed, given⟩ := TypeSystem.propertyOf_eq_some_iff.mp isFound
  exact (tells t isValue).foundText object found viewed given

theorem child_of_refusal {subject : Subject τ} (name : String)
    (view : τ → Outcome (Option τ)) (property : τ → Given τ → Outcome (Option τ))
    (refuses : system.affirms subject.actual .isObjectType = false) :
    subject.child { system with objectView := view, property := property } name =
      subject.child system name := by
  rw [child, child, TypeSystem.propertyOf_of_refusal refuses,
    TypeSystem.propertyOf_of_refusal (by exact refuses)]
  rfl

end Subject

/--
The checks that a type has a property and that it lacks it never both pass, whatever the subject. They
report the same failures of the receiver: that it is no literal object, if it is absent or does not
say so, and then that it is no object type, likewise; in the latter case no method of the look-up is
called, so it does not matter what those do. Behind them, the one check reports that the subject of
the property is absent, if it is, and the other that it is present. So exactly one of them passes if
the receiver is a literal object and an object type, and none otherwise; the check that there is such
a property passes if the object view has a value for it.
-/
theorem property_checks_are_complementary (system : TypeSystem τ) (subject : Subject τ)
    (name : String) (tells : ∀ t, subject.actual = some t → system.TellsProperty t name)
    (journal : Journal) :
    let has := subject.hasProperty system (.text name)
    let lacks := subject.lacksProperty system (.text name)
    let isLiteral := system.affirms subject.actual .isLiteralObject
    let isObject := system.affirms subject.actual .isObjectType
    let hasPasses := has.Silent .collecting journal
    let lacksPasses := lacks.Silent .collecting journal
    ¬(hasPasses ∧ lacksPasses) ∧
      (hasPasses ∧ ¬lacksPasses ∨ lacksPasses ∧ ¬hasPasses ↔ isLiteral = true ∧ isObject = true) ∧
      (isLiteral = true → isObject = true →
        (hasPasses ↔ ∃ t object found, subject.actual = some t ∧
          system.objectView t = .ok (some object) ∧
          system.property object (.text name) = .ok (some found))) ∧
      (∃ receiver child childText,
        (∃ reached, (subject.propertyType system (.text name)).runFrom .collecting journal =
          (.ok child, reached)) ∧
        child.debugText system = .ok childText ∧
        receiver.map Failure.name =
          (if isLiteral then [] else ["is_literal_object"]) ++
            (if isObject then [] else ["with_type_of_prop"]) ∧
        has.runFrom .collecting journal =
          (.ok (), journal.collectAll (receiver ++
            if child.actual.isNone then
              [child.failure "is_present" [Fact.simple "expected a present value"] "[None]"]
            else [])) ∧
        lacks.runFrom .collecting journal =
          (.ok (), journal.collectAll (receiver ++
            if child.actual.isSome then
              [child.failure "is_absent" [Fact.simple "expected an absent value"] childText]
            else []))) ∧
      (isObject = false → ∀ view property,
        let other := { system with objectView := view, property := property }
        (subject.hasProperty other (.text name)).runFrom .collecting journal =
            has.runFrom .collecting journal ∧
          (subject.lacksProperty other (.text name)).runFrom .collecting journal =
            lacks.runFrom .collecting journal) := by
  intro has lacks isLiteral isObject hasPasses lacksPasses
  obtain ⟨shown, shown_eq⟩ : ∃ shown, subject.debugText system = .ok shown :=
    TypeSystem.debugText_of_text fun t found => (tells t found).text
  obtain ⟨childText, childShown⟩ := Subject.debugText_child tells
  have literal (t : τ) (found : subject.actual = some t) := (tells t found).isLiteral
  have looked :=
    subject.runFrom_propertyType name fun t found => (tells t found).toLooksUp
  let child := subject.child system name
  have hasRan : has.runFrom .collecting journal =
      (.ok (), journal.collectAll (subject.receiverFailures system ++ child.absenceFailures)) :=
    Subject.runFrom_is_then_propertyType system literal shown_eq looked child.runFrom_isPresent journal
  have lacksRan : lacks.runFrom .collecting journal =
      (.ok (), journal.collectAll
        (subject.receiverFailures system ++ child.presenceFailures childText)) :=
    Subject.runFrom_is_then_propertyType system literal shown_eq looked
      (Subject.runFrom_isAbsent childShown) journal
  have hasIff : hasPasses ↔
      (isLiteral = true ∧ isObject = true) ∧ ∃ found, child.actual = some found := by
    refine (Check.silent_iff_of_collectAll hasRan).trans ?_
    rw [List.append_eq_nil_iff, Subject.receiverFailures_eq_nil_iff tells shown_eq,
      Subject.absenceFailures_eq_nil_iff]
  have lacksIff : lacksPasses ↔
      (isLiteral = true ∧ isObject = true) ∧ child.actual = none := by
    refine (Check.silent_iff_of_collectAll lacksRan).trans ?_
    rw [List.append_eq_nil_iff, Subject.receiverFailures_eq_nil_iff tells shown_eq,
      Subject.presenceFailures_eq_nil_iff]
  refine ⟨?_, ?_, ?_, ?_, ?_⟩
  · rw [hasIff, lacksIff]
    rintro ⟨⟨-, found, present⟩, -, absent⟩
    rw [present] at absent
    cases absent
  · rw [hasIff, lacksIff]
    cases child.actual <;> simp
  · intro literalHolds objectHolds
    rw [hasIff]
    constructor
    · rintro ⟨-, found, present⟩
      obtain ⟨-, t, object, isValue, viewed, given⟩ :=
        TypeSystem.propertyOf_eq_some_iff.mp present
      exact ⟨t, object, found, isValue, viewed, given⟩
    · rintro ⟨t, object, found, isValue, viewed, given⟩
      have present : child.actual = some found :=
        TypeSystem.propertyOf_eq_some_iff.mpr ⟨objectHolds, t, object, isValue, viewed, given⟩
      exact ⟨⟨literalHolds, objectHolds⟩, found, present⟩
  · exact ⟨_, child, childText, ⟨_, looked journal⟩, childShown,
      Subject.map_name_receiverFailures tells shown_eq, hasRan, lacksRan⟩
  · intro refuses view property other
    have otherLooked (journal : Journal) :
        (subject.propertyType other (.text name)).runFrom .collecting journal =
          (.ok child, journal.collectAll (subject.lookUpFailures system)) := by
      have refused := Subject.runFrom_propertyType_of_refusal other shown_eq
        (fun t found => (tells t found).isObject) refuses name journal
      rwa [Subject.child_of_refusal name view property refuses] at refused
    exact
      ⟨(Subject.runFrom_is_then_propertyType other literal shown_eq otherLooked
          child.runFrom_isPresent journal).trans hasRan.symm,
        (Subject.runFrom_is_then_propertyType other literal shown_eq otherLooked
          (Subject.runFrom_isAbsent childShown) journal).trans lacksRan.symm⟩

namespace Sample

def point : Sample :=
  .mock ⟨some "point", 0⟩
    { className := ⟨"mocks", "Mock"⟩
      text := .gives (.text "point")
      literal := .gives (.text "<mock>")
      answers := [(.isLiteralObject, .gives (.bool true)), (.isObjectType, .gives (.int 1))]
      objectView := none
      properties := some [("x", .leads (.here (.simple ⟨none, 1⟩ .number "number")))]
      subtype := ⟨[], none⟩
      equivalence := ⟨[], none⟩
      equality := none
      hash := .scripted (.gives (.int 0))
      missing := []
      nulled := [] }

theorem tellsProperty_point {name : String} {found : Option Sample}
    (given : (system []).property point (.text name) = .ok found)
    (text : ∀ t, found = some t → ∃ text, (system []).text t = .ok text) :
    ∀ t, (Subject.of (some point)).actual = some t → (system []).TellsProperty t name := by
  rintro t ⟨⟩
  refine ⟨⟨⟨_, rfl⟩, ⟨_, rfl⟩, ⟨_, rfl⟩, ?_⟩, ⟨_, rfl⟩, ?_⟩
  · rintro object ⟨⟩
    exact ⟨found, given⟩
  · rintro object t ⟨⟩ isFound
    rw [given] at isFound
    exact text t (Except.ok.inj isFound)

end Sample

/--
The one property that a point has, one that it lacks, and a property of an absent value, of which both
checks complain.
-/
theorem property_checks_of_point :
    let system := Sample.system []
    let point := Subject.of (some Sample.point)
    let nothing : Subject Sample := Subject.of none
    ((point.hasProperty system (.text "x")).Silent .collecting .empty ∧
        ¬(point.lacksProperty system (.text "x")).Silent .collecting .empty) ∧
      ((point.lacksProperty system (.text "y")).Silent .collecting .empty ∧
        ¬(point.hasProperty system (.text "y")).Silent .collecting .empty) ∧
      ∃ reached, (nothing.hasProperty system (.text "x")).runFrom .collecting .empty =
          (.ok (), reached) ∧
        reached.failures.map Failure.name =
          ["is_literal_object", "with_type_of_prop", "is_present"] := by
  intro system point nothing
  obtain ⟨notBothX, -, hasX, -⟩ :=
    property_checks_are_complementary system point "x"
      (Sample.tellsProperty_point rfl (by rintro t ⟨⟩; exact ⟨_, rfl⟩)) .empty
  obtain ⟨notBothY, oneY, hasY, -⟩ :=
    property_checks_are_complementary system point "y"
      (Sample.tellsProperty_point rfl (by rintro t ⟨⟩)) .empty
  obtain ⟨-, -, -, ⟨receiver, child, childText, ⟨_, looked⟩, -, names, ran, -⟩, -⟩ :=
    property_checks_are_complementary system nothing "x" (by rintro t ⟨⟩) .empty
  have passesX := (hasX rfl rfl).mpr ⟨_, _, _, rfl, rfl, rfl⟩
  refine ⟨⟨passesX, fun both => notBothX ⟨passesX, both⟩⟩, ?_, _, ran, ?_⟩
  · have failsY : ¬(point.hasProperty system (.text "y")).Silent .collecting .empty := by
      intro passes
      obtain ⟨t, object, found, isPoint, viewed, given⟩ := (hasY rfl rfl).mp passes
      cases isPoint
      cases viewed
      cases given
    rcases oneY.mpr ⟨rfl, rfl⟩ with ⟨passes, -⟩ | ⟨passes, -⟩
    · exact absurd passes failsY
    · exact ⟨passes, failsY⟩
  · cases looked
    rw [Journal.collectAll_failures, Journal.empty, List.nil_append, List.map_append, names]
    rfl

end TypeLaws
