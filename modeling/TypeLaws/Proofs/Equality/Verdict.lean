import TypeLaws.Proofs.Equality.Comparison
import TypeLaws.Sample.System

/-!
The verdict of an equality check: three laws, each of them judged by itself from what the methods of
the two types answer. `Answers` is what they answer, `Law.broken` says which laws that breaks, and
`Law.failure` is the failure that reports a broken law. A value that is no type is not compared.
-/

namespace TypeLaws

variable {τ : Type} (system : TypeSystem τ)

/-- What the methods of two types answer in an equality check; no hash is an answer. -/
structure Answers (equivalence : Equivalence) (actual provided : Option τ) extends
    Comparison system equivalence actual provided where
  actualHash : Option Int
  providedHash : Option Int
  actualHash_eq : system.hash? actual = .ok actualHash
  providedHash_eq : system.hash? provided = .ok providedHash

/--
The methods of a type that an equality check with another one calls give results; there may be no
hash.
-/
structure Responds (t : τ) (other : Option τ) : Prop where
  text : ∃ text, system.text t = .ok text
  equality : ∃ answer, system.declaresEqual t other = .ok answer
  equivalence : ∃ answer, system.isEquivalentTo t other = .ok answer
  hash : (∃ h, system.hash t = .ok h) ∨
    ∃ fault, system.hash t = .error fault ∧ fault.isTypeFault = true

namespace Responds

variable {system}

theorem debugText {actual provided : Option τ}
    (responds : ∀ t, actual = some t → Responds system t provided) :
    ∃ text, system.debugText actual = .ok text := by
  cases actual with
  | none => exact ⟨_, rfl⟩
  | some t =>
      obtain ⟨text, given⟩ := (responds t rfl).text
      refine ⟨text ++ " [instanceof " ++ (system.className t).dotted ++ "]", ?_⟩
      rw [TypeSystem.debugText, given]
      rfl

theorem test {actual provided : Option τ} (equivalence : Equivalence)
    (responds : ∀ t, actual = some t → Responds system t provided) :
    ∃ b, equivalence.test system actual provided = .ok b := by
  cases actual with
  | none => exact ⟨_, rfl⟩
  | some t =>
      cases equivalence with
      | natural =>
          obtain ⟨answer, given⟩ := (responds t rfl).equality
          exact ⟨_, Equivalence.natural_test_some system given⟩
      | structural =>
          obtain ⟨answer, given⟩ := (responds t rfl).equivalence
          exact ⟨_, Equivalence.structural_test_some system given⟩

theorem hash? {actual provided : Option τ}
    (responds : ∀ t, actual = some t → Responds system t provided) :
    ∃ h, system.hash? actual = .ok h := by
  cases actual with
  | none => exact ⟨_, rfl⟩
  | some t =>
      simp only [TypeSystem.hash?]
      rcases (responds t rfl).hash with ⟨h, given⟩ | ⟨fault, given, isTypeFault⟩
      · rw [given]
        exact ⟨_, rfl⟩
      · rw [given]
        simp only [isTypeFault, if_true]
        exact ⟨_, rfl⟩

end Responds

theorem Answers.exists_of_responds (equivalence : Equivalence) {actual provided : Option τ}
    (actualResponds : ∀ t, actual = some t → Responds system t provided)
    (providedResponds : ∀ t, provided = some t → Responds system t actual) :
    Nonempty (Answers system equivalence actual provided) := by
  obtain ⟨actualText, actualText_eq⟩ := Responds.debugText actualResponds
  obtain ⟨providedText, providedText_eq⟩ := Responds.debugText providedResponds
  obtain ⟨forward, forward_eq⟩ := Responds.test equivalence actualResponds
  obtain ⟨backward, backward_eq⟩ := Responds.test equivalence providedResponds
  obtain ⟨actualHash, actualHash_eq⟩ := Responds.hash? actualResponds
  obtain ⟨providedHash, providedHash_eq⟩ := Responds.hash? providedResponds
  let comparison : Comparison system equivalence actual provided :=
    ⟨actualText, providedText, forward, backward, actualText_eq, providedText_eq, forward_eq,
      backward_eq⟩
  exact ⟨⟨comparison, actualHash, providedHash, actualHash_eq, providedHash_eq⟩⟩

inductive Law where
  /-- The types are equal, or are not, as expected. -/
  | expected
  /-- Equality is the same in both directions. -/
  | symmetric
  /-- Types that are to be equal have equal hashes. -/
  | hashed
  deriving DecidableEq

namespace Law

def all : List Law := [.expected, .symmetric, .hashed]

def headline : Law → String
  | .expected => "types expected to be equal"
  | .symmetric => "equality should be symmetric"
  | .hashed => "if two types are equal their hashes must also be equal"

variable {system} {equivalence : Equivalence} {actual provided : Option τ}

/-- The answers break a law. Hashes are looked at only where equality is expected. -/
def broken (expectation : Bool) (answers : Answers system equivalence actual provided) :
    Law → Bool
  | .expected => decide (answers.forward ≠ expectation)
  | .symmetric => decide (answers.forward ≠ answers.backward)
  | .hashed =>
      expectation && (answers.actualHash.isNone || answers.providedHash.isNone ||
        answers.actualHash != answers.providedHash)

def facts (expectation : Bool) (answers : Answers system equivalence actual provided) :
    Law → List Fact
  | .expected => answers.unexpectedFacts expectation
  | .symmetric => answers.asymmetryFacts
  | .hashed =>
      [Fact.simple Law.hashed.headline,
        Fact.of "hash(actual)" (Subject.shownHash answers.actualHash),
        Fact.of "hash(provided)" (Subject.shownHash answers.providedHash),
        answers.providedFact]

def failure (subject : Subject τ) (name : String) (expectation : Bool)
    (answers : Answers system equivalence actual provided) (law : Law) : Failure :=
  subject.failure name (law.facts expectation answers) answers.actualText

theorem failure_headline (subject : Subject τ) (name : String) (expectation : Bool)
    (answers : Answers system equivalence actual provided) (law : Law) :
    (law.failure subject name expectation answers).headline = law.headline := by
  cases law <;> rfl

theorem map_failure_headline (subject : Subject τ) (name : String) (expectation : Bool)
    (answers : Answers system equivalence actual provided) (laws : List Law) :
    (laws.map (Law.failure subject name expectation answers)).map Failure.headline =
      laws.map Law.headline := by
  rw [List.map_map]
  apply List.map_congr_left
  intro law _
  exact law.failure_headline subject name expectation answers

theorem not_hashesAgree (actualHash providedHash : Option Int) :
    (!Subject.hashesAgree actualHash providedHash) =
      (actualHash.isNone || providedHash.isNone || actualHash != providedHash) := by
  cases actualHash with
  | none => rfl
  | some a =>
      cases providedHash with
      | none => rfl
      | some b => rfl

end Law

namespace Answers

variable {system} {equivalence : Equivalence} {provided : Option τ}

theorem runFrom_checkHashes_collecting {subject : Subject τ}
    (answers : Answers system equivalence subject.actual provided) (expectation : Bool)
    (name : String) (journal : Journal) :
    (subject.checkHashes system expectation name provided answers.providedFact).runFrom
        .collecting journal =
      (.ok (), journal.collectIf (Law.hashed.broken expectation answers)
        (Law.hashed.failure subject name expectation answers)) := by
  have shown : subject.debugText system = .ok answers.actualText := answers.actualText_eq
  unfold Subject.checkHashes
  cases expectation with
  | false => rfl
  | true =>
      rw [if_pos rfl]
      rw [answers.actualHash_eq, Check.runFrom_bind_ok _ (Check.runFrom_call_ok _ _ _)]
      rw [answers.providedHash_eq, Check.runFrom_bind_ok _ (Check.runFrom_call_ok _ _ _)]
      rw [subject.runFrom_fail_if system name _ shown, Law.not_hashesAgree, Bool.decide_eq_true]
      rfl

theorem judge_failures {subject : Subject τ}
    (answers : Answers system equivalence subject.actual provided) (expectation : Bool)
    (name : String) (journal : Journal) :
    ((answers.judge subject name expectation journal).collectIf
        (Law.hashed.broken expectation answers)
        (Law.hashed.failure subject name expectation answers)).failures =
      journal.failures ++ (Law.all.filter (Law.broken expectation answers)).map
        (Law.failure subject name expectation answers) := by
  simp only [Comparison.judge, Journal.collectIf_failures, Journal.note_failures, Law.all,
    List.append_assoc]
  change journal.failures ++ ((if Law.expected.broken expectation answers then
      [Law.expected.failure subject name expectation answers] else []) ++
    ((if Law.symmetric.broken expectation answers then
      [Law.symmetric.failure subject name expectation answers] else []) ++ _)) = _
  cases unexpected : Law.expected.broken expectation answers <;>
    cases asymmetric : Law.symmetric.broken expectation answers <;>
    cases unhashed : Law.hashed.broken expectation answers <;>
    simp [List.filter, unexpected, asymmetric, unhashed]

theorem runFrom_equality_collecting {subject : Subject τ}
    (answers : Answers system equivalence subject.actual provided) {expectation : Bool}
    (compares : Subject.Compares system equivalence expectation provided) (journal : Journal) :
    ∃ reached,
      (subject.equality system equivalence expectation provided).runFrom .collecting journal =
          (.ok (), reached) ∧
        reached.failures = journal.failures ++
          (Law.all.filter (Law.broken expectation answers)).map
            (Law.failure subject (Subject.equalityName equivalence expectation)
              expectation answers) := by
  refine ⟨_, ?_, answers.judge_failures expectation _ journal⟩
  rw [subject.equality_eq_checkEquality expectation compares,
    subject.runFrom_checkEquality_collecting expectation _ answers.toComparison journal]
  exact answers.runFrom_checkHashes_collecting expectation _ _

end Answers

/--
An equality assertion of types that give answers adds the failures of the laws that the answers
break, in the order of the laws and nothing else. Equality itself, claimed of a value that lacks a
method of types, adds one failure that says so, and the two are not compared.
-/
theorem equality_failures_eq_broken_laws (subject : Subject τ) (journal : Journal) :
    (∀ (equivalence : Equivalence) (expectation : Bool) (provided : Option τ),
      (∀ t, subject.actual = some t → Responds system t provided) →
      (∀ t, provided = some t → Responds system t subject.actual) →
      Subject.Compares system equivalence expectation provided →
      ∃ answers : Answers system equivalence subject.actual provided,
        ∃ reached,
          (subject.equality system equivalence expectation provided).runFrom
              .collecting journal = (.ok (), reached) ∧
            reached.failures = journal.failures ++
              (Law.all.filter (Law.broken expectation answers)).map
                (Law.failure subject (Subject.equalityName equivalence expectation)
                  expectation answers)) ∧
      ∀ (stranger : τ) (method : Method) (actualText written : String),
        method ∈ Method.ofTypes → system.offers stranger method = false →
        system.debugText subject.actual = .ok actualText →
        system.literal stranger = .ok written →
        (subject.equality system .natural true (some stranger)).runFrom .collecting journal =
          (.ok (),
            journal.collect (subject.failure (Subject.equalityName .natural true)
              (Subject.strangerFacts system stranger written) actualText)) := by
  constructor
  · intro equivalence expectation provided actualResponds providedResponds compares
    obtain ⟨answers⟩ :=
      Answers.exists_of_responds system equivalence actualResponds providedResponds
    exact ⟨answers, answers.runFrom_equality_collecting compares journal⟩
  · intro stranger method actualText written member missing shown literal
    have lacks : system.isType stranger = false :=
      List.all_eq_false.mpr ⟨method, member, by rw [missing]; decide⟩
    rw [subject.equality_stranger lacks, literal,
      Check.runFrom_bind_ok _ (Check.runFrom_call_ok _ _ _)]
    exact subject.runFrom_fail_collecting system _ _ shown journal

/--
A type that claims to equal all others breaks symmetry against one without a hash, and the missing
hash is reported as well; a plain number is no type.
-/
theorem equality_failures_of_lopsided_type :
    let lopsided := Sample.simple ⟨none, 0⟩ .lopsidedNumber "number"
    let unhashable := Sample.simple ⟨none, 1⟩ .equalityOnly "x"
    let plain := Sample.bare ⟨none, 2⟩ (.int 3)
    let subject := Subject.of (some lopsided)
    (∃ reached,
      (subject.equality (Sample.system []) .natural true (some unhashable)).runFrom
          .collecting .empty = (.ok (), reached) ∧
        reached.failures.map Failure.headline =
          [Law.symmetric.headline, Law.hashed.headline]) ∧
      ∃ reached,
        (subject.equality (Sample.system []) .natural true (some plain)).runFrom
            .collecting .empty = (.ok (), reached) ∧
          reached.failures.map Failure.headline = ["expected an instance of"] := by
  intro lopsided unhashable plain subject
  have claims : (Sample.system []).declaresEqual lopsided (some unhashable) = .ok (.bool true) := by
    simp [Sample.system, Sample.declares, lopsided, unhashable, Sample.isFake, Sample.family?]
  have denies : (Sample.system []).declaresEqual unhashable (some lopsided) = .ok (.bool false) := by
    simp [Sample.system, Sample.declares, Sample.declaresByName, lopsided, unhashable,
      Sample.isFake, Sample.family?]
  have lopsidedResponds : Responds (Sample.system []) lopsided (some unhashable) :=
    { text := ⟨_, rfl⟩
      equality := ⟨_, claims⟩
      equivalence := ⟨_, rfl⟩
      hash := .inl ⟨_, rfl⟩ }
  have unhashableResponds : Responds (Sample.system []) unhashable (some lopsided) :=
    { text := ⟨_, rfl⟩
      equality := ⟨_, denies⟩
      equivalence := ⟨_, rfl⟩
      hash := .inr ⟨_, rfl, rfl⟩ }
  obtain ⟨ofTypes, ofStrangers⟩ :=
    equality_failures_eq_broken_laws (Sample.system []) subject .empty
  constructor
  · obtain ⟨answers, reached, ran, failures⟩ := ofTypes .natural true (some unhashable)
      (fun t same => Option.some.inj same ▸ lopsidedResponds)
      (fun t same => Option.some.inj same ▸ unhashableResponds)
      (fun _ _ t same => Option.some.inj same ▸ by decide)
    have forward : answers.forward = true :=
      Except.ok.inj (answers.forward_eq.symm.trans
        (Equivalence.natural_test_some (Sample.system []) claims))
    have backward : answers.backward = false :=
      Except.ok.inj (answers.backward_eq.symm.trans
        (Equivalence.natural_test_some (Sample.system []) denies))
    have noHash : answers.providedHash = none :=
      Except.ok.inj (answers.providedHash_eq.symm.trans rfl)
    have broken : Law.all.filter (Law.broken true answers) = [.symmetric, .hashed] := by
      simp [Law.all, Law.broken, forward, backward, noHash]
    refine ⟨reached, ran, ?_⟩
    rw [failures, broken]
    exact Law.map_failure_headline _ _ _ _ _
  · exact ⟨_, ofStrangers plain .objectView _ _ (by decide) rfl rfl rfl, rfl⟩

end TypeLaws
