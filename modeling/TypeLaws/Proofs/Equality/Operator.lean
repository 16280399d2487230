import TypeLaws.Proofs.Subject.Composition
import TypeLaws.Sample.System

/-!
The one-sided test is sound for the equality operator. The operator asks both sides, the refined
class first; the test asks its receiver alone. Where the tests agree in both directions, neither
the order of asking nor a side that declines makes a difference. So an equality assertion that
reports nothing has settled the operator in both operand orders.
-/

namespace TypeLaws

variable {τ : Type} (system : TypeSystem τ)

theorem decideEquality_settles (rightFirst identical : Bool) (left right : Value) :
    (do return (← decideEquality rightFirst identical (fun _ => .ok left)
      (fun _ => .ok right)).isTrue : Outcome Bool) =
      .ok (if rightFirst then right.settles (left.settles identical)
        else left.settles (right.settles identical)) := by
  cases rightFirst <;> cases left <;> cases right <;> rfl

namespace TypeSystem

theorem equal_of_declares {a p : Option τ} {left right : Value}
    (leftGiven : system.declares a p = .ok left) (rightGiven : system.declares p a = .ok right) :
    system.equal a p =
      .ok (if system.refinesClass p a then right.settles (left.settles (system.sameObject a p))
        else left.settles (right.settles (system.sameObject a p))) := by
  unfold equal
  rw [leftGiven, rightGiven]
  exact decideEquality_settles _ _ _ _

theorem declares_of_present {a p : Option τ}
    (given : ∀ t, a = some t → ∃ answer, system.declaresEqual t p = .ok answer) :
    ∃ answer, system.declares a p = .ok answer := by
  cases a with
  | some t => exact given t rfl
  | none =>
      cases p with
      | none => exact ⟨_, rfl⟩
      | some t => exact ⟨_, rfl⟩

end TypeSystem

theorem Equivalence.natural_test_of_declares {a p : Option τ} {answer : Value}
    (given : system.declares a p = .ok answer) :
    Equivalence.natural.test system a p = .ok (answer.settles (system.sameObject a p)) := by
  cases a with
  | some t => exact natural_test_some system given
  | none =>
      cases p with
      | none =>
          cases given
          rfl
      | some t =>
          cases given
          rfl

/-- A side that decides gives what the other test gives; one that declines passes it on. -/
theorem Value.settles_settles {left right : Value} {identical identical' : Bool}
    (agree : left.settles identical = right.settles identical') :
    left.settles (right.settles identical) = left.settles identical ∧
      right.settles (left.settles identical) = left.settles identical := by
  by_cases leftDeclines : left = .notImplemented
  · subst leftDeclines
    by_cases rightDeclines : right = .notImplemented
    · subst rightDeclines
      exact ⟨rfl, rfl⟩
    · rw [settles_of_ne identical' rightDeclines] at agree
      rw [settles_of_ne _ rightDeclines, settles_of_ne _ rightDeclines]
      exact ⟨agree.symm, agree.symm⟩
  · rw [settles_of_ne _ leftDeclines, settles_of_ne _ leftDeclines]
    refine ⟨rfl, ?_⟩
    by_cases rightDeclines : right = .notImplemented
    · subst rightDeclines
      rfl
    · rw [settles_of_ne identical leftDeclines, settles_of_ne identical' rightDeclines] at agree
      rw [settles_of_ne _ rightDeclines]
      exact agree.symm

theorem TypeSystem.equal_eq_test {a p : Option τ}
    (leftGiven : ∃ answer, system.declares a p = .ok answer)
    (rightGiven : ∃ answer, system.declares p a = .ok answer)
    (agree : Equivalence.natural.test system a p = Equivalence.natural.test system p a) :
    system.equal a p = Equivalence.natural.test system a p := by
  obtain ⟨left, leftGiven⟩ := leftGiven
  obtain ⟨right, rightGiven⟩ := rightGiven
  rw [Equivalence.natural_test_of_declares system leftGiven,
    Equivalence.natural_test_of_declares system rightGiven] at agree
  obtain ⟨leftFirst, rightFirst⟩ := Value.settles_settles (Except.ok.inj agree)
  rw [system.equal_of_declares leftGiven rightGiven,
    Equivalence.natural_test_of_declares system leftGiven]
  split
  · rw [rightFirst]
  · rw [leftFirst]

namespace Subject

variable {system} {equivalence : Equivalence} {expectation : Bool} {provided : Option τ}

theorem tests_of_checkEquality_raising (subject : Subject τ) {name : String}
    {journal reached : Journal}
    (ran : (subject.checkEquality system equivalence expectation name provided).runFrom
      .raising journal = (.ok (), reached)) :
    equivalence.test system subject.actual provided = .ok expectation ∧
      equivalence.test system provided subject.actual = .ok expectation := by
  unfold checkEquality at ran
  obtain ⟨providedText, _, -, ran⟩ := Check.exists_of_runFrom_bind_ok ran
  obtain ⟨actualText, _, -, ran⟩ := Check.exists_of_runFrom_bind_ok ran
  obtain ⟨forward, _, forwardRan, ran⟩ := Check.exists_of_runFrom_bind_ok ran
  obtain ⟨asExpected, ran⟩ := subject.not_of_runFrom_fail_if_then_raising system name _ ran
  obtain ⟨backward, _, backwardRan, ran⟩ := Check.exists_of_runFrom_bind_ok ran
  obtain ⟨_, _, -, ran⟩ := Check.exists_of_runFrom_bind_ok ran
  obtain ⟨symmetric, -⟩ := subject.not_of_runFrom_fail_if_then_raising system name _ ran
  have forwardGiven := (Check.eq_ok_of_runFrom_call forwardRan).1
  have backwardGiven := (Check.eq_ok_of_runFrom_call backwardRan).1
  rw [Decidable.not_not] at asExpected symmetric
  subst asExpected symmetric
  exact ⟨forwardGiven, backwardGiven⟩

theorem tests_of_equality_silent (subject : Subject τ) {reporter : Reporter} {journal : Journal}
    (silent : (subject.equality system equivalence expectation provided).Silent reporter journal) :
    equivalence.test system subject.actual provided = .ok expectation ∧
      equivalence.test system provided subject.actual = .ok expectation := by
  obtain ⟨_, reached, ran⟩ :=
    (subject.equality_agrees system equivalence expectation provided).raising_ok_of_silent silent
  rcases compares_or_stranger system equivalence expectation provided with
    compares | ⟨rfl, rfl, stranger, rfl, lacks⟩
  · rw [subject.equality_eq_checkEquality expectation compares] at ran
    exact subject.tests_of_checkEquality_raising ran
  · -- A stranger is reported, so the raising run cannot have gone through.
    rw [subject.equality_stranger lacks] at ran
    obtain ⟨written, _, -, ran⟩ := Check.exists_of_runFrom_bind_ok ran
    exact absurd ran (subject.runFrom_fail_raising_ne_ok system _ _ _ _)

theorem equality_reports_asymmetry (subject : Subject τ)
    (comparison : Comparison system equivalence subject.actual provided)
    (compares : Compares system equivalence expectation provided)
    (asymmetric : comparison.forward ≠ comparison.backward) (journal : Journal) :
    ∃ reported,
      ((subject.equality system equivalence expectation provided).runFrom
          .collecting journal).2.failures = journal.failures ++ reported ∧
        ∃ failure ∈ reported, failure.headline = "equality should be symmetric" := by
  rw [subject.equality_eq_checkEquality expectation compares,
    subject.runFrom_checkEquality_collecting expectation _ comparison journal]
  obtain ⟨more, failures, -, -⟩ := subject.checkHashes_agrees system expectation
    (equalityName equivalence expectation) provided comparison.providedFact
    (comparison.judge subject (equalityName equivalence expectation) expectation journal) .empty
  rw [failures, Comparison.judge, Journal.collectIf_failures, Journal.note_failures,
    Journal.collectIf_failures, if_pos (decide_eq_true asymmetric), List.append_assoc,
    List.append_assoc]
  refine ⟨_, rfl, subject.failure (equalityName equivalence expectation)
    comparison.asymmetryFacts comparison.actualText, ?_, rfl⟩
  simp

end Subject

/--
Two values whose equality methods answer: where the natural tests agree in both directions, the
equality operator gives what they give, in both operand orders. So a silent equality assertion has
settled the operator; and where the operator, in either order, is not what the forward test says, a
collecting run of the assertion reports that equality is not symmetric.
-/
theorem natural_test_decides_operator (subject : Subject τ) (provided : Option τ)
    (actualAnswers : ∀ t, subject.actual = some t →
      ∃ answer, system.declaresEqual t provided = .ok answer)
    (providedAnswers : ∀ t, provided = some t →
      ∃ answer, system.declaresEqual t subject.actual = .ok answer) :
    ∃ forward backward,
      Equivalence.natural.test system subject.actual provided = .ok forward ∧
      Equivalence.natural.test system provided subject.actual = .ok backward ∧
      (forward = backward →
        system.equal subject.actual provided = .ok forward ∧
          system.equal provided subject.actual = .ok forward) ∧
      (∀ expectation reporter journal,
        (subject.equality system .natural expectation provided).Silent reporter journal →
          system.equal subject.actual provided = .ok expectation ∧
            system.equal provided subject.actual = .ok expectation) ∧
      ∀ expectation journal actualText providedText,
        system.debugText subject.actual = .ok actualText →
        system.debugText provided = .ok providedText →
        Subject.Compares system .natural expectation provided →
        (system.equal subject.actual provided ≠ .ok forward ∨
          system.equal provided subject.actual ≠ .ok forward) →
        ∃ reported,
          ((subject.equality system .natural expectation provided).runFrom
              .collecting journal).2.failures = journal.failures ++ reported ∧
            ∃ failure ∈ reported, failure.headline = "equality should be symmetric" := by
  have left := system.declares_of_present actualAnswers
  have right := system.declares_of_present providedAnswers
  have operator : Equivalence.natural.test system subject.actual provided =
      Equivalence.natural.test system provided subject.actual →
      system.equal subject.actual provided =
          Equivalence.natural.test system subject.actual provided ∧
        system.equal provided subject.actual =
          Equivalence.natural.test system subject.actual provided := by
    intro agree
    exact ⟨system.equal_eq_test left right agree,
      (system.equal_eq_test right left agree.symm).trans agree.symm⟩
  obtain ⟨_, leftGiven⟩ := left
  obtain ⟨_, rightGiven⟩ := right
  have forwardGiven := Equivalence.natural_test_of_declares system leftGiven
  have backwardGiven := Equivalence.natural_test_of_declares system rightGiven
  refine ⟨_, _, forwardGiven, backwardGiven, ?_, ?_, ?_⟩
  · intro agree
    rw [← forwardGiven]
    apply operator
    rw [forwardGiven, backwardGiven, agree]
  · intro expectation reporter journal silent
    obtain ⟨forward, backward⟩ := subject.tests_of_equality_silent silent
    rw [← forward]
    exact operator (forward.trans backward.symm)
  · intro expectation journal actualText providedText actualShown providedShown compares differs
    let comparison : Comparison system .natural subject.actual provided :=
      ⟨actualText, providedText, _, _, actualShown, providedShown, forwardGiven, backwardGiven⟩
    apply subject.equality_reports_asymmetry comparison compares
    intro agree
    have both := operator (by rw [forwardGiven, backwardGiven]; exact congrArg _ agree)
    rw [forwardGiven] at both
    rcases differs with first | second
    · exact first both.1
    · exact second both.2

/--
A number type does not equal a type that claims to equal all others, but the operator asks the
refined class first and says that it does; two number types are equal both ways.
-/
theorem natural_test_decides_operator_of_number_types :
    let number := Sample.simple ⟨none, 0⟩ .number "number"
    let other := Sample.simple ⟨none, 1⟩ .number "number"
    let lopsided := Sample.simple ⟨none, 2⟩ .lopsidedNumber "number"
    let subject := Subject.of (some number)
    (∃ reported,
      ((subject.equality (Sample.system []) .natural true (some lopsided)).runFrom
          .collecting .empty).2.failures = reported ∧
        ∃ failure ∈ reported, failure.headline = "equality should be symmetric") ∧
      (Sample.system []).equal (some number) (some other) = .ok true := by
  intro number other lopsided subject
  let system := Sample.system []
  have denies : system.declaresEqual number (some lopsided) = .ok (.bool false) := by
    simp [system, Sample.system, Sample.declares, Sample.declaresByName, number, lopsided,
      Sample.isFake, Sample.family?]
  have claims : system.declaresEqual lopsided (some number) = .ok (.bool true) := by
    simp [system, Sample.system, Sample.declares, number, lopsided, Sample.isFake, Sample.family?]
  have same : system.declaresEqual number (some other) = .ok (.bool true) := by
    simp [system, Sample.system, Sample.declares, Sample.declaresByName, number, other,
      Sample.isFake, Sample.family?, Sample.name]
  have same' : system.declaresEqual other (some number) = .ok (.bool true) := by
    simp [system, Sample.system, Sample.declares, Sample.declaresByName, number, other,
      Sample.isFake, Sample.family?, Sample.name]
  constructor
  · obtain ⟨forward, backward, forwardGiven, -, -, -, reports⟩ :=
      natural_test_decides_operator system subject (some lopsided)
        (fun t present => Option.some.inj present ▸ ⟨_, denies⟩)
        (fun t present => Option.some.inj present ▸ ⟨_, claims⟩)
    have left : system.declares (some number) (some lopsided) = .ok (.bool false) := denies
    have right : system.declares (some lopsided) (some number) = .ok (.bool true) := claims
    have operator : system.equal (some number) (some lopsided) = .ok true :=
      system.equal_of_declares left right
    have forwardDenies : forward = false :=
      Except.ok.inj (forwardGiven.symm.trans (Equivalence.natural_test_some system denies))
    refine reports true .empty _ _ rfl rfl ?_ (.inl ?_)
    · intro _ _ t present
      cases present
      decide
    · subst forwardDenies
      change system.equal (some number) (some lopsided) ≠ _
      rw [operator]
      simp
  · obtain ⟨forward, backward, forwardGiven, backwardGiven, agrees, -⟩ :=
      natural_test_decides_operator system subject (some other)
        (fun t present => Option.some.inj present ▸ ⟨_, same⟩)
        (fun t present => Option.some.inj present ▸ ⟨_, same'⟩)
    have forwardHolds : forward = true :=
      Except.ok.inj (forwardGiven.symm.trans (Equivalence.natural_test_some system same))
    have backwardHolds : backward = true :=
      Except.ok.inj (backwardGiven.symm.trans (Equivalence.natural_test_some system same'))
    subst forwardHolds backwardHolds
    exact (agrees rfl).1

end TypeLaws
