import TypeLaws.Proofs.Equality.Test
import TypeLaws.Proofs.Subject.Failure

/-!
An equality check up to its hashes: the two tests, what is reported of them, and the log record
between the two reports. Hashes are looked at afterwards, in `checkHashes`, so what is said here
holds of types whatever their hashes do.
-/

namespace TypeLaws

variable {τ : Type} (system : TypeSystem τ)

/-- What two types answer when they are compared in both directions. -/
structure Comparison (equivalence : Equivalence) (actual provided : Option τ) where
  actualText : String
  providedText : String
  forward : Bool
  backward : Bool
  actualText_eq : system.debugText actual = .ok actualText
  providedText_eq : system.debugText provided = .ok providedText
  forward_eq : equivalence.test system actual provided = .ok forward
  backward_eq : equivalence.test system provided actual = .ok backward

namespace Comparison

variable {system} {equivalence : Equivalence} {actual provided : Option τ}

def record (comparison : Comparison system equivalence actual provided) : Log.Record :=
  ⟨.debug, Log.assertionLogger,
    equivalence.word ++ " check: " ++ comparison.actualText ++ " vs " ++ comparison.providedText
      ++ ": forward=" ++ Subject.shownTruth comparison.forward
      ++ ", backward=" ++ Subject.shownTruth comparison.backward⟩

def providedFact (comparison : Comparison system equivalence actual provided) : Fact :=
  Fact.of "provided" (.text comparison.providedText)

def forwardFact (comparison : Comparison system equivalence actual provided) : Fact :=
  Fact.of (equivalence.describe comparison.actualText comparison.providedText)
    (.bool comparison.forward)

def backwardFact (comparison : Comparison system equivalence actual provided) : Fact :=
  Fact.of (equivalence.describe comparison.providedText comparison.actualText)
    (.bool comparison.backward)

def unexpectedFacts (comparison : Comparison system equivalence actual provided)
    (expectation : Bool) : List Fact :=
  [Fact.of "types expected to be equal" (.bool expectation), comparison.forwardFact,
    comparison.providedFact]

def asymmetryFacts (comparison : Comparison system equivalence actual provided) : List Fact :=
  [Fact.simple "equality should be symmetric", comparison.forwardFact, comparison.backwardFact,
    comparison.providedFact]

/-- The journal of a collecting run once both tests have been judged. -/
def judge (comparison : Comparison system equivalence actual provided) (subject : Subject τ)
    (name : String) (expectation : Bool) (journal : Journal) : Journal :=
  let unexpected := subject.failure name (comparison.unexpectedFacts expectation)
    comparison.actualText
  let asymmetry := subject.failure name comparison.asymmetryFacts comparison.actualText
  ((journal.collectIf (decide (comparison.forward ≠ expectation)) unexpected).note
    comparison.record).collectIf (decide (comparison.forward ≠ comparison.backward)) asymmetry

theorem exists_judge_failures (comparison : Comparison system equivalence actual provided)
    (subject : Subject τ) (name : String) (expectation : Bool) (journal : Journal) :
    ∃ judged, (comparison.judge subject name expectation journal).failures =
      journal.failures ++ judged := by
  simp only [judge, Journal.collectIf_failures, Journal.note_failures, List.append_assoc]
  exact ⟨_, rfl⟩

end Comparison

namespace Subject

def checkHashes (subject : Subject τ) (expectation : Bool) (name : String)
    (provided : Option τ) (shown : Fact) : Check Unit := do
  if expectation then
    let actualHash ← Check.call (system.hash? subject.actual)
    let providedHash ← Check.call (system.hash? provided)
    if !hashesAgree actualHash providedHash then
      subject.fail system name
        [Fact.simple "if two types are equal their hashes must also be equal",
          Fact.of "hash(actual)" (shownHash actualHash),
          Fact.of "hash(provided)" (shownHash providedHash), shown]

variable {system} {equivalence : Equivalence} {provided : Option τ}

theorem runFrom_checkEquality_collecting (subject : Subject τ) (expectation : Bool)
    (name : String) (comparison : Comparison system equivalence subject.actual provided)
    (journal : Journal) :
    (subject.checkEquality system equivalence expectation name provided).runFrom
        .collecting journal =
      (subject.checkHashes system expectation name provided comparison.providedFact).runFrom
        .collecting (comparison.judge subject name expectation journal) := by
  have shown : subject.debugText system = .ok comparison.actualText := comparison.actualText_eq
  unfold checkEquality
  rw [comparison.providedText_eq, Check.runFrom_bind_ok _ (Check.runFrom_call_ok _ _ _)]
  rw [shown, Check.runFrom_bind_ok _ (Check.runFrom_call_ok _ _ _)]
  rw [comparison.forward_eq, Check.runFrom_bind_ok _ (Check.runFrom_call_ok _ _ _)]
  rw [subject.runFrom_fail_if_then system name _ shown]
  rw [comparison.backward_eq, Check.runFrom_bind_ok _ (Check.runFrom_call_ok _ _ _)]
  rw [Check.runFrom_bind_ok _ (Check.runFrom_log _ _ _)]
  rw [subject.runFrom_fail_if_then system name _ shown]
  rfl

/-- An equality assertion compares what is provided; equality itself is claimed of types only. -/
def Compares (system : TypeSystem τ) (equivalence : Equivalence) (expectation : Bool)
    (provided : Option τ) : Prop :=
  equivalence = .natural → expectation = true → ∀ t, provided = some t → system.isType t = true

theorem compares_or_stranger (system : TypeSystem τ) (equivalence : Equivalence)
    (expectation : Bool) (provided : Option τ) :
    Compares system equivalence expectation provided ∨
      (equivalence = .natural ∧ expectation = true ∧
        ∃ stranger, provided = some stranger ∧ system.isType stranger = false) := by
  cases equivalence with
  | structural =>
      left
      intro natural
      cases natural
  | natural =>
      cases expectation with
      | false =>
          left
          intro _ claimed
          cases claimed
      | true =>
          cases provided with
          | none =>
              left
              intro _ _ t present
              cases present
          | some t =>
              cases typed : system.isType t with
              | true => exact .inl fun _ _ t' same => Option.some.inj same ▸ typed
              | false => exact .inr ⟨rfl, rfl, t, rfl, typed⟩

theorem equality_eq_checkEquality (subject : Subject τ) (expectation : Bool)
    (compares : Compares system equivalence expectation provided) :
    subject.equality system equivalence expectation provided =
      subject.checkEquality system equivalence expectation
        (equalityName equivalence expectation) provided := by
  unfold equality
  extract_lets name candidate
  have noStranger : candidate.filter (!system.isType ·) = none := by
    rw [Option.filter_eq_none_iff]
    intro t given
    by_cases claimed : (equivalence = .natural && expectation) = true
    · have claim := Bool.and_eq_true_iff.mp claimed
      have isProvided : provided = some t := by
        rw [← given]
        exact (if_pos claimed).symm
      rw [compares (of_decide_eq_true claim.1) claim.2 t isProvided]
      decide
    · have absent : candidate = none := if_neg claimed
      rw [absent] at given
      cases given
  rw [noStranger]

def strangerFacts (system : TypeSystem τ) (stranger : τ) (written : String) : List Fact :=
  [Fact.of "expected an instance of" (.text "TypeValue"),
    Fact.of "but was instance of" (.text (system.className stranger).dotted),
    Fact.of "with value" (.text written)]

theorem equality_stranger (subject : Subject τ) {stranger : τ}
    (lacks : system.isType stranger = false) :
    subject.equality system .natural true (some stranger) = (do
      let written ← Check.call (system.literal stranger)
      subject.fail system (equalityName .natural true)
        (strangerFacts system stranger written)) := by
  unfold equality
  extract_lets name candidate
  have isStranger : candidate.filter (!system.isType ·) = some stranger := by
    change (some stranger).filter (!system.isType ·) = some stranger
    rw [Option.filter_some, lacks]
    rfl
  rw [isStranger]
  rfl

end Subject

end TypeLaws
