import TypeLaws.Proofs.Check.Dialogue
import TypeLaws.Proofs.Equality.Comparison
import TypeLaws.Session.Assertion

/-!
Every assertion is a dialogue with the methods of types, so it is put together from calls, records
about comparisons, and reports: a collecting and a raising run of it agree up to the first report, and
what it logs is known.
-/

namespace TypeLaws

open Check (Agrees Composed)

variable {τ : Type} (system : TypeSystem τ) {sink : Handle}

namespace TypeSystem

theorem debugText_converses (value : Option τ) :
    Converses system sink fun other => Check.call (other.debugText value) := by
  cases value with
  | none => exact .pure absentText
  | some t =>
      have shown (text : String) : Converses system sink fun _ =>
          Check.call (.ok (text ++ " [instanceof " ++ (system.className t).dotted ++ "]")) :=
        .pure _
      refine (Converses.callBind (.ask (.text t)) shown).congr fun other shares => ?_
      rw [← shares.className]
      rfl

theorem hash?_converses (value : Option τ) :
    Converses system sink fun other => Check.call (other.hash? value) := by
  cases value with
  | none =>
      refine (Converses.pure (some system.absentHash)).congr fun other shares => ?_
      rw [← shares.absentHash]
      rfl
  | some t => exact .ask (.hash t)

theorem literalOf_converses (given : Given τ) :
    Converses system sink fun other => Check.call (other.literalOf given) := by
  cases given with
  | text s => exact .pure (Text.quote s)
  | other t => exact .ask (.literal t)

theorem differs_converses (given : Given τ) (text : String) :
    Converses system sink fun other => Check.call (other.differs given text) := by
  cases given with
  | text s => exact .pure (text != s)
  | other t => exact .ask (.differsFromText t text)

end TypeSystem

theorem Equivalence.test_converses (equivalence : Equivalence) (receiver parameter : Option τ) :
    Converses system sink fun other => Check.call (equivalence.test other receiver parameter) := by
  cases receiver with
  | none => exact .pure parameter.isNone
  | some t =>
      cases equivalence with
      | natural =>
          have settled (answer : Value) : Converses system sink fun _ =>
              Check.call (.ok (answer.settles (system.sameObject (some t) parameter))) :=
            .pure _
          refine (Converses.callBind (.ask (.declaresEqual t parameter)) settled).congr
            fun other shares => congrArg Check.call ?_
          rw [← shares.sameObject, TypeSystem.answer]
          cases given : other.declaresEqual t parameter with
          | error fault =>
              simp only [test, testPresent, given]
              rfl
          | ok answer => exact natural_test_some other given
      | structural =>
          have settled (answer : Value) :
              Converses system sink fun _ => Check.call (.ok answer.isTrue) :=
            .pure _
          exact Converses.callBind (.ask (.isEquivalentTo t parameter)) settled

namespace Subject

theorem fail_converses (subject : Subject τ) (name : String) (facts : List Fact) :
    Converses system subject.reporter fun other => subject.fail other name facts :=
  (system.debugText_converses subject.actual).bind fun _ => .report _ name

theorem present_converses (subject : Subject τ) (name : String) :
    Converses system subject.reporter fun other => subject.present other name := by
  unfold present
  exact (subject.fail_converses system name _).ifThenNext (.pure _)

theorem isPresent_converses (subject : Subject τ) :
    Converses system subject.reporter fun other => subject.isPresent other := by
  unfold isPresent
  split
  · exact subject.fail_converses system _ _
  · exact .pure _

theorem isAbsent_converses (subject : Subject τ) :
    Converses system subject.reporter fun other => subject.isAbsent other := by
  unfold isAbsent
  split
  · exact subject.fail_converses system _ _
  · exact .pure _

theorem checkQuery_converses (subject : Subject τ) (name : String) (query : Query)
    (expected : Bool) :
    Converses system subject.reporter fun other => subject.checkQuery other name query expected := by
  unfold checkQuery
  refine (subject.present_converses system name).bind fun found => ?_
  cases found with
  | none => exact .pure _
  | some actual =>
      refine (Converses.ask (.ask actual query)).bind fun answer => ?_
      split
      · exact .pure _
      · exact (subject.fail_converses system name _).bind fun _ => .pure _

theorem is_converses (subject : Subject τ) (predicate : Predicate) :
    Converses system subject.reporter fun other => subject.is other predicate :=
  (subject.checkQuery_converses system _ _ _).bind fun _ => .pure _

theorem isSubtypeOf_converses (subject : Subject τ) (super : Option τ) :
    Converses system subject.reporter fun other => subject.isSubtypeOf other super := by
  unfold isSubtypeOf
  refine (subject.present_converses system _).bind fun found => ?_
  cases found with
  | none => exact .pure _
  | some actual =>
      refine (Converses.ask (.isSubtypeOf actual super)).bind fun answer => ?_
      split
      · exact .pure _
      · exact (system.debugText_converses super).bind fun _ => subject.fail_converses system _ _

theorem textIsEqualTo_converses (subject : Subject τ) (expected : Given τ) :
    Converses system subject.reporter fun other => subject.textIsEqualTo other expected := by
  unfold textIsEqualTo
  refine (subject.present_converses system _).bind fun found => ?_
  cases found with
  | none => exact .pure _
  | some actual =>
      refine (Converses.ask (.text actual)).bind fun text => ?_
      refine (system.differs_converses expected text).bind fun differs => ?_
      split
      · exact (system.literalOf_converses expected).bind fun _ =>
          subject.fail_converses system _ _
      · exact .pure _

theorem lookUp_converses (subject : Subject τ) (name : Given τ) :
    Converses system subject.reporter fun other => subject.lookUp other name := by
  unfold lookUp
  refine (subject.present_converses system _).bind fun found => ?_
  cases found with
  | none => exact .pure _
  | some actual =>
      refine (subject.checkQuery_converses system _ _ _).bind fun isObject => ?_
      split
      · refine (Converses.ask (.objectView actual)).bind fun view => ?_
        cases view with
        | none => exact .pure _
        | some object => exact .ask (.property object name)
      · exact .pure _

theorem propertyType_converses (subject : Subject τ) (name : Given τ) :
    Converses system subject.reporter fun other => subject.propertyType other name := by
  refine (system.literalOf_converses name).bind fun quoted => ?_
  refine (subject.lookUp_converses system name).bind fun found => ?_
  exact (system.debugText_converses subject.actual).bind fun _ => .pure _

/-- What follows a look-up is done with a subject that has the reporter of the one before. -/
theorem propertyType_bind {α : Type} (subject : Subject τ) (name : Given τ)
    (next : Subject τ → Check α) :
    subject.propertyType system name >>= next =
      subject.propertyType system name >>= fun child =>
        next { child with reporter := subject.reporter } := by
  simp only [propertyType, bind_assoc, pure_bind]

theorem propertyType_next_converses {α : Type} (subject : Subject τ) (name : Given τ)
    {next : TypeSystem τ → Subject τ → Check α}
    (later : ∀ child : Subject τ, child.reporter = subject.reporter →
      Converses system subject.reporter fun other => next other child) :
    Converses system subject.reporter fun other => subject.propertyType other name >>= next other := by
  refine ((subject.propertyType_converses system name).bind fun child =>
    later { child with reporter := subject.reporter } rfl).congr ?_
  exact fun other _ => subject.propertyType_bind other name (next other)

theorem hasProperty_converses (subject : Subject τ) (name : Given τ) :
    Converses system subject.reporter fun other => subject.hasProperty other name := by
  refine (subject.is_converses system _).bind fun _ => ?_
  refine subject.propertyType_next_converses system name fun child same => ?_
  exact same ▸ child.isPresent_converses system

theorem lacksProperty_converses (subject : Subject τ) (name : Given τ) :
    Converses system subject.reporter fun other => subject.lacksProperty other name := by
  refine (subject.is_converses system _).bind fun _ => ?_
  refine subject.propertyType_next_converses system name fun child same => ?_
  exact same ▸ child.isAbsent_converses system

theorem checkHashes_converses (subject : Subject τ) (expectation : Bool) (name : String)
    (provided : Option τ) (shown : Fact) :
    Converses system subject.reporter fun other =>
      subject.checkHashes other expectation name provided shown := by
  unfold checkHashes
  split
  · refine (system.hash?_converses subject.actual).bind fun actualHash => ?_
    refine (system.hash?_converses provided).bind fun providedHash => ?_
    split
    · exact subject.fail_converses system name _
    · exact .pure _
  · exact .pure _

theorem checkEquality_converses (subject : Subject τ) (equivalence : Equivalence)
    (expectation : Bool) (name : String) (provided : Option τ) :
    Converses system subject.reporter fun other =>
      subject.checkEquality other equivalence expectation name provided := by
  unfold checkEquality
  refine (system.debugText_converses provided).bind fun providedText => ?_
  refine (system.debugText_converses subject.actual).bind fun actualText => ?_
  refine (equivalence.test_converses system subject.actual provided).bind fun forward => ?_
  refine (subject.fail_converses system name _).ifThenNext ?_
  refine (equivalence.test_converses system provided subject.actual).bind fun backward => ?_
  refine (Converses.log _).bind fun _ => ?_
  exact (subject.fail_converses system name _).ifThenNext
    (subject.checkHashes_converses system expectation name provided _)

theorem equality_converses (subject : Subject τ) (equivalence : Equivalence) (expectation : Bool)
    (provided : Option τ) :
    Converses system subject.reporter fun other =>
      subject.equality other equivalence expectation provided := by
  rcases compares_or_stranger system equivalence expectation provided with
    compares | ⟨rfl, rfl, stranger, rfl, lacks⟩
  · refine (subject.checkEquality_converses system equivalence expectation _ provided).congr
      fun other shares => subject.equality_eq_checkEquality expectation ?_
    rw [Compares, shares.isType]
    exact compares
  · refine ((Converses.ask (.literal stranger)).bind fun written =>
      subject.fail_converses system (equalityName .natural true)
        (strangerFacts system stranger written)).congr fun other shares => ?_
    rw [subject.equality_stranger (by rw [shares.isType]; exact lacks)]
    simp only [strangerFacts, shares.className]
    rfl

theorem checkHashes_agrees (subject : Subject τ) (expectation : Bool) (name : String)
    (provided : Option τ) (shown : Fact) :
    Agrees (subject.checkHashes system expectation name provided shown) :=
  (subject.checkHashes_converses system expectation name provided shown).composed.agrees

theorem equality_agrees (subject : Subject τ) (equivalence : Equivalence) (expectation : Bool)
    (provided : Option τ) :
    Agrees (subject.equality system equivalence expectation provided) :=
  (subject.equality_converses system equivalence expectation provided).composed.agrees

end Subject

namespace Assertion

theorem perform_converses (assertion : Assertion τ) (subject : Subject τ) :
    Converses system subject.reporter fun other => assertion.perform other subject := by
  cases assertion with
  | isPresent => exact (subject.isPresent_converses system).bind fun _ => .pure _
  | isAbsent => exact (subject.isAbsent_converses system).bind fun _ => .pure _
  | is predicate => exact (subject.is_converses system predicate).bind fun _ => .pure _
  | isSubtypeOf super =>
      exact (subject.isSubtypeOf_converses system super).bind fun _ => .pure _
  | textIsEqualTo expected =>
      exact (subject.textIsEqualTo_converses system expected).bind fun _ => .pure _
  | hasProperty name => exact (subject.hasProperty_converses system name).bind fun _ => .pure _
  | propertyType name =>
      exact (subject.propertyType_converses system name).bind fun _ => .pure _
  | lacksProperty name =>
      exact (subject.lacksProperty_converses system name).bind fun _ => .pure _
  | equality equivalence expectation provided =>
      exact (subject.equality_converses system equivalence expectation provided).bind fun _ =>
        .pure _

theorem perform_composed (assertion : Assertion τ) (subject : Subject τ) :
    Composed subject.reporter (assertion.perform system subject) :=
  (assertion.perform_converses system subject).composed

theorem perform_agrees (assertion : Assertion τ) (subject : Subject τ) :
    Agrees (assertion.perform system subject) :=
  (assertion.perform_composed system subject).agrees

end Assertion

end TypeLaws
