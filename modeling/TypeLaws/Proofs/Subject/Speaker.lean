import TypeLaws.Proofs.Subject.Origin

/-!
Who reports the failures of an assertion, and under which name. All but two assertions report
through the subject that they are made of and under one name; those about a property end with a
check of the subject of the property, whose failure has a name of its own.
-/

namespace TypeLaws

open Check (Reports)

variable {τ : Type} (system : TypeSystem τ)

namespace Subject

/-- The failure is one that the subject reports under this name, and says of which subject it is. -/
def Tells (subject : Subject τ) (name : String) (failure : Failure) : Prop :=
  failure.name = name ∧ subject.Introduces system failure

theorem fail_reports (subject : Subject τ) (name : String) {facts : List Fact}
    (fits : subject.Fits facts) :
    Reports (subject.Tells system name) (subject.fail system name facts) := by
  unfold fail
  refine (Reports.call _).bind fun actualText given => Reports.report _ ?_
  obtain ⟨journal, reached, ran⟩ := given
  have shown := (Check.eq_ok_of_runFrom_call ran).1
  exact ⟨rfl, introduces_failure fits name shown⟩

theorem fits_simple (subject : Subject τ) {label : String} (notParent : label ≠ "parent")
    (notValueOf : label ≠ "value of") : subject.Fits [Fact.simple label] :=
  fits_of_plain ⟨notParent, notValueOf⟩ nofun

theorem present_reports (subject : Subject τ) (name : String) :
    Reports (subject.Tells system name) (subject.present system name) := by
  unfold present
  exact (subject.fail_reports system name
    (subject.fits_simple (by decide) (by decide))).ifThenNext (Reports.pure _)

theorem isPresent_reports (subject : Subject τ) :
    Reports (subject.Tells system "is_present") (subject.isPresent system) := by
  unfold isPresent
  split
  · exact subject.fail_reports system _ (subject.fits_simple (by decide) (by decide))
  · exact Reports.pure _

theorem isAbsent_reports (subject : Subject τ) :
    Reports (subject.Tells system "is_absent") (subject.isAbsent system) := by
  unfold isAbsent
  split
  · exact subject.fail_reports system _ (subject.fits_simple (by decide) (by decide))
  · exact Reports.pure _

theorem fits_expectation (subject : Subject τ) {text : String}
    (tells : ∃ before after, text = before ++ subject.path ++ after) (expected butWas : Value) :
    subject.Fits [Fact.of valueOf (.text text), Fact.of "expected" expected,
      Fact.of "but was" butWas] := by
  apply fits_of_valueOf tells
  rw [List.forall_mem_cons, List.forall_mem_singleton]
  exact ⟨Fact.isDetail_of (by decide) (by decide) _, Fact.isDetail_of (by decide) (by decide) _⟩

theorem checkQuery_reports (subject : Subject τ) (name : String) (query : Query)
    (expected : Bool) :
    Reports (subject.Tells system name) (subject.checkQuery system name query expected) := by
  unfold checkQuery
  refine (subject.present_reports system name).bind fun found _ => ?_
  cases found with
  | none => exact Reports.pure _
  | some actual =>
      refine (Reports.call _).bind fun answer _ => ?_
      split
      · exact Reports.pure _
      · refine (subject.fail_reports system name (subject.fits_expectation ?_ _ _)).bind
          fun _ _ => Reports.pure _
        refine ⟨"", "." ++ query.name ++ "()", ?_⟩
        rw [String.empty_append, String.append_assoc, String.append_assoc, String.append_assoc]

theorem is_reports (subject : Subject τ) (predicate : Predicate) :
    Reports (subject.Tells system predicate.name) (subject.is system predicate) := by
  unfold Subject.is
  exact (subject.checkQuery_reports system _ _ _).bind fun _ _ => Reports.pure _

theorem isSubtypeOf_reports (subject : Subject τ) (super : Option τ) :
    Reports (subject.Tells system "is_subtype_of") (subject.isSubtypeOf system super) := by
  unfold isSubtypeOf
  refine (subject.present_reports system _).bind fun found _ => ?_
  cases found with
  | none => exact Reports.pure _
  | some actual =>
      refine (Reports.call _).bind fun answer _ => ?_
      split
      · exact Reports.pure _
      · refine (Reports.call _).bind fun superText _ =>
          subject.fail_reports system _ (subject.fits_expectation ?_ _ _)
        refine ⟨"", ".is_subtype_of(" ++ superText ++ ")", ?_⟩
        rw [String.empty_append, String.append_assoc, String.append_assoc, String.append_assoc]

theorem textIsEqualTo_reports (subject : Subject τ) (expected : Given τ) :
    Reports (subject.Tells system "to_string_is_equal_to")
      (subject.textIsEqualTo system expected) := by
  unfold textIsEqualTo
  refine (subject.present_reports system _).bind fun found _ => ?_
  cases found with
  | none => exact Reports.pure _
  | some actual =>
      refine (Reports.call _).bind fun text _ => (Reports.call _).bind fun differs _ => ?_
      split
      · exact (Reports.call _).bind fun _ _ =>
          subject.fail_reports system _ (subject.fits_expectation ⟨_, _, rfl⟩ _ _)
      · exact Reports.pure _

theorem lookUp_reports (subject : Subject τ) (name : Given τ) :
    Reports (subject.Tells system "with_type_of_prop") (subject.lookUp system name) := by
  unfold lookUp
  refine (subject.present_reports system _).bind fun found _ => ?_
  cases found with
  | none => exact Reports.pure _
  | some actual =>
      refine (subject.checkQuery_reports system _ _ _).bind fun isObject _ => ?_
      split
      · refine (Reports.call _).bind fun view _ => ?_
        cases view with
        | none => exact Reports.pure _
        | some object => exact Reports.call _
      · exact Reports.pure _

theorem propertyType_reports (subject : Subject τ) (name : Given τ) :
    Reports (subject.Tells system "with_type_of_prop") (subject.propertyType system name) := by
  refine (Reports.call _).bind fun quoted _ => ?_
  refine (subject.lookUp_reports system name).bind fun found _ => ?_
  exact (Reports.call _).bind fun _ _ => Reports.pure _

theorem checkHashes_reports (subject : Subject τ) (expectation : Bool) (name : String)
    (provided : Option τ) {shown : Fact} (detail : shown.IsDetail) :
    Reports (subject.Tells system name)
      (subject.checkHashes system expectation name provided shown) := by
  unfold checkHashes
  split
  · refine (Reports.call _).bind fun actualHash _ => (Reports.call _).bind fun providedHash _ => ?_
    split
    · apply subject.fail_reports system name
      apply fits_of_plain ⟨by decide, by decide⟩
      rw [List.forall_mem_cons, List.forall_mem_cons, List.forall_mem_singleton]
      exact ⟨Fact.isDetail_of (by decide) (by decide) _, Fact.isDetail_of (by decide) (by decide) _,
        detail⟩
    · exact Reports.pure _
  · exact Reports.pure _

theorem checkEquality_reports (subject : Subject τ) (equivalence : Equivalence)
    (expectation : Bool) (name : String) (provided : Option τ) :
    Reports (subject.Tells system name)
      (subject.checkEquality system equivalence expectation name provided) := by
  unfold checkEquality
  refine (Reports.call _).bind fun providedText _ => (Reports.call _).bind fun actualText _ => ?_
  have shown : (Fact.of "provided" (.text providedText)).IsDetail :=
    Fact.isDetail_of (by decide) (by decide) _
  refine (Reports.call _).bind fun forward _ => ?_
  refine (subject.fail_reports system name ?_).ifThenNext ?_
  · apply fits_of_plain (Fact.isDetail_of (by decide) (by decide) _).toIsPlain
    rw [List.forall_mem_cons, List.forall_mem_singleton]
    exact ⟨Fact.isDetail_describe _ _ _ _, shown⟩
  refine (Reports.call _).bind fun backward _ => (Reports.log _).bind fun _ _ => ?_
  refine (subject.fail_reports system name ?_).ifThenNext
    (subject.checkHashes_reports system expectation name provided shown)
  apply fits_of_plain ⟨by decide, by decide⟩
  rw [List.forall_mem_cons, List.forall_mem_cons, List.forall_mem_singleton]
  exact ⟨Fact.isDetail_describe _ _ _ _, Fact.isDetail_describe _ _ _ _, shown⟩

theorem equality_reports (subject : Subject τ) (equivalence : Equivalence) (expectation : Bool)
    (provided : Option τ) :
    Reports (subject.Tells system (equalityName equivalence expectation))
      (subject.equality system equivalence expectation provided) := by
  unfold equality
  extract_lets name candidate
  cases candidate.filter (!system.isType ·) with
  | none => exact subject.checkEquality_reports system equivalence expectation name provided
  | some stranger =>
      refine (Reports.call _).bind fun written _ => subject.fail_reports system name ?_
      apply fits_of_plain (Fact.isDetail_of (by decide) (by decide) _).toIsPlain
      rw [List.forall_mem_cons, List.forall_mem_singleton]
      exact ⟨Fact.isDetail_of (by decide) (by decide) _, Fact.isDetail_of (by decide) (by decide) _⟩

end Subject

namespace Assertion

def IsProperty (receiver : Subject τ) (property : Given τ) (child : Subject τ) : Prop :=
  (receiver.propertyType system property).Gives child

/--
The names under which an assertion reports failures, and the subject through which it does. Those
about a property check the receiver, look the property up on it, and check the subject of the
property.
-/
inductive Speaks (receiver : Subject τ) : Assertion τ → String → Subject τ → Prop where
  | isPresent : Speaks receiver .isPresent "is_present" receiver
  | isAbsent : Speaks receiver .isAbsent "is_absent" receiver
  | is (predicate : Predicate) : Speaks receiver (.is predicate) predicate.name receiver
  | isSubtypeOf (super : Option τ) :
      Speaks receiver (.isSubtypeOf super) "is_subtype_of" receiver
  | textIsEqualTo (expected : Given τ) :
      Speaks receiver (.textIsEqualTo expected) "to_string_is_equal_to" receiver
  | propertyType (property : Given τ) :
      Speaks receiver (.propertyType property) "with_type_of_prop" receiver
  | equality (equivalence : Equivalence) (expectation : Bool) (provided : Option τ) :
      Speaks receiver (.equality equivalence expectation provided)
        (Subject.equalityName equivalence expectation) receiver
  | hasProperty_literal (property : Given τ) :
      Speaks receiver (.hasProperty property) "is_literal_object" receiver
  | hasProperty_lookUp (property : Given τ) :
      Speaks receiver (.hasProperty property) "with_type_of_prop" receiver
  | hasProperty_present {property : Given τ} {child : Subject τ}
      (given : IsProperty system receiver property child) :
      Speaks receiver (.hasProperty property) "is_present" child
  | lacksProperty_literal (property : Given τ) :
      Speaks receiver (.lacksProperty property) "is_literal_object" receiver
  | lacksProperty_lookUp (property : Given τ) :
      Speaks receiver (.lacksProperty property) "with_type_of_prop" receiver
  | lacksProperty_absent {property : Given τ} {child : Subject τ}
      (given : IsProperty system receiver property child) :
      Speaks receiver (.lacksProperty property) "is_absent" child

def Tells (assertion : Assertion τ) (receiver : Subject τ) (failure : Failure) : Prop :=
  ∃ speaker, Speaks system receiver assertion failure.name speaker ∧
    speaker.Introduces system failure

theorem reports_of_speaks {α : Type} {assertion : Assertion τ} {receiver speaker : Subject τ}
    {name : String} (speaks : Speaks system receiver assertion name speaker) {check : Check α}
    (reports : Reports (speaker.Tells system name) check) :
    Reports (assertion.Tells system receiver) check := by
  apply reports.mono
  rintro failure ⟨rfl, introduces⟩
  exact ⟨speaker, speaks, introduces⟩

theorem hasProperty_reports (subject : Subject τ) (property : Given τ) :
    Reports ((Assertion.hasProperty property).Tells system subject)
      (subject.hasProperty system property) := by
  unfold Subject.hasProperty
  refine (reports_of_speaks system (.hasProperty_literal property)
    (subject.is_reports system .literalObject)).bind fun _ _ => ?_
  refine (reports_of_speaks system (.hasProperty_lookUp property)
    (subject.propertyType_reports system property)).bind fun child given => ?_
  exact reports_of_speaks system (.hasProperty_present given) (child.isPresent_reports system)

theorem lacksProperty_reports (subject : Subject τ) (property : Given τ) :
    Reports ((Assertion.lacksProperty property).Tells system subject)
      (subject.lacksProperty system property) := by
  unfold Subject.lacksProperty
  refine (reports_of_speaks system (.lacksProperty_literal property)
    (subject.is_reports system .literalObject)).bind fun _ _ => ?_
  refine (reports_of_speaks system (.lacksProperty_lookUp property)
    (subject.propertyType_reports system property)).bind fun child given => ?_
  exact reports_of_speaks system (.lacksProperty_absent given) (child.isAbsent_reports system)

theorem perform_reports (assertion : Assertion τ) (subject : Subject τ) :
    Reports (assertion.Tells system subject) (assertion.perform system subject) := by
  cases assertion with
  | isPresent =>
      exact (reports_of_speaks system .isPresent (subject.isPresent_reports system)).bind
        fun _ _ => Reports.pure _
  | isAbsent =>
      exact (reports_of_speaks system .isAbsent (subject.isAbsent_reports system)).bind
        fun _ _ => Reports.pure _
  | is predicate =>
      exact (reports_of_speaks system (.is predicate) (subject.is_reports system predicate)).bind
        fun _ _ => Reports.pure _
  | isSubtypeOf super =>
      exact (reports_of_speaks system (.isSubtypeOf super)
        (subject.isSubtypeOf_reports system super)).bind fun _ _ => Reports.pure _
  | textIsEqualTo expected =>
      exact (reports_of_speaks system (.textIsEqualTo expected)
        (subject.textIsEqualTo_reports system expected)).bind fun _ _ => Reports.pure _
  | propertyType property =>
      exact (reports_of_speaks system (.propertyType property)
        (subject.propertyType_reports system property)).bind fun _ _ => Reports.pure _
  | equality equivalence expectation provided =>
      exact (reports_of_speaks system (.equality equivalence expectation provided)
        (subject.equality_reports system equivalence expectation provided)).bind
          fun _ _ => Reports.pure _
  | hasProperty property =>
      exact (hasProperty_reports system subject property).bind fun _ _ => Reports.pure _
  | lacksProperty property =>
      exact (lacksProperty_reports system subject property).bind fun _ _ => Reports.pure _

end Assertion

/--
Every failure that an assertion reports says of which subject it is, under either reporter: a
raising one ends with the facts of such a failure. The subject is the one that the assertion is made
of, or that of the property for the last check of an assertion about a property.
-/
theorem every_failure_says_how_reached (assertion : Assertion τ) (subject : Subject τ)
    (journal : Journal) :
    ∃ reported,
      ((assertion.perform system subject).runFrom .collecting journal).2.failures =
          journal.failures ++ reported ∧
        (∀ failure ∈ reported, ∃ speaker,
          Assertion.Speaks system subject assertion failure.name speaker ∧
            speaker.Introduces system failure) ∧
        ∀ facts text,
          ((assertion.perform system subject).runFrom .raising journal).1 =
              .error (.unmet facts text) →
            ∃ failure ∈ reported, failure.facts = facts := by
  obtain ⟨reported, failures, tells⟩ := assertion.perform_reports system subject journal
  obtain ⟨result, reached, raisedReached, same, collected, raised, sameFailures, endsByFault⟩ :=
    (assertion.perform_agrees system subject).runs journal journal
  have sameReported : same = reported := by
    rw [collected, sameFailures] at failures
    exact List.append_cancel_left failures
  subst sameReported
  refine ⟨same, failures, tells, ?_⟩
  intro facts text unmet
  rw [raised] at unmet
  cases same with
  | nil =>
      obtain ⟨fault, impossible⟩ := endsByFault _ unmet
      cases impossible
  | cons first rest =>
      cases unmet
      exact ⟨first, List.mem_cons_self, rfl⟩

end TypeLaws
