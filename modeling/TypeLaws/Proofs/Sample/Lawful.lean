import TypeLaws.Proofs.Equality.Verdict
import TypeLaws.Proofs.Sample.Hash
import TypeLaws.Proofs.Sample.Relations

/-!
No false alarms about lawful types. Both equivalences are sameness of form, so they are reflexive,
symmetric and transitive; the form that keeps names is the finer one, and hashes go by the other.
So an equality check never finds an asymmetry, and finds hashes wanting only where the types differ.
-/

namespace TypeLaws.Sample

theorem structural_form_eq_of_natural {a b : Sample} (lawful : Lawful a) (otherLawful : Lawful b)
    (same : form .natural a = form .natural b) : form .structural a = form .structural b := by
  induction lawful generalizing b with
  | simple label family name isLawful =>
      cases otherLawful with
      | simple label' family' name' isLawful' => exact same
      | record label' name' others isLiteral' => cases same
  | record label name rows isLiteral proper lawfulRows ih =>
      cases otherLawful with
      | simple label' family' name' isLawful' => cases same
      | record label' name' others isLiteral' otherProper otherLawfulRows =>
          rw [form, form, Form.record.injEq, proper.forms_eq_iff otherProper] at same
          rw [form, form, Form.record.injEq, proper.forms_eq_iff otherProper]
          refine ⟨rfl, same.2.1, ?_⟩
          intro key a member
          obtain ⟨b, found, sameForm⟩ := same.2.2 key a member
          have otherLawful := otherLawfulRows key b (Rows.mem_of_lookup found)
          exact ⟨b, found, ih key a member otherLawful sameForm⟩

theorem structural_valueForm_eq {a b : Option Sample} (lawful : LawfulValue a)
    (otherLawful : LawfulValue b) {equivalence : Equivalence}
    (same : valueForm equivalence a = valueForm equivalence b) :
    valueForm .structural a = valueForm .structural b := by
  cases equivalence with
  | structural => exact same
  | natural =>
      cases a with
      | none =>
          cases b with
          | none => rfl
          | some b => cases same
      | some a =>
          cases b with
          | none => cases same
          | some b =>
              exact congrArg some (structural_form_eq_of_natural (lawful a rfl)
                (otherLawful b rfl) (Option.some.inj same))

variable (table : Table)

theorem test_eq_true_iff (equivalence : Equivalence) {a b : Option Sample}
    (lawful : LawfulValue a) (otherLawful : LawfulValue b) :
    equivalence.test (system table) a b = .ok true ↔
      valueForm equivalence a = valueForm equivalence b := by
  obtain ⟨holds, given, holdsIff⟩ := test_of_lawful table equivalence lawful otherLawful
  rw [given, Except.ok.injEq, holdsIff]

theorem test_symm (equivalence : Equivalence) {a b : Option Sample}
    (lawful : LawfulValue a) (otherLawful : LawfulValue b) :
    ∃ holds, equivalence.test (system table) a b = .ok holds ∧
      equivalence.test (system table) b a = .ok holds := by
  obtain ⟨holds, given, holdsIff⟩ := test_of_lawful table equivalence lawful otherLawful
  obtain ⟨holds', given', holdsIff'⟩ := test_of_lawful table equivalence otherLawful lawful
  have same : holds = holds' :=
    Bool.eq_iff_iff.mpr (holdsIff.trans (eq_comm.trans holdsIff'.symm))
  rw [← same] at given'
  exact ⟨holds, given, given'⟩

theorem test_structural_of_test (equivalence : Equivalence) {a b : Option Sample}
    (lawful : LawfulValue a) (otherLawful : LawfulValue b)
    (holds : equivalence.test (system table) a b = .ok true) :
    Equivalence.structural.test (system table) a b = .ok true := by
  rw [test_eq_true_iff table equivalence lawful otherLawful] at holds
  rw [test_eq_true_iff table .structural lawful otherLawful]
  exact structural_valueForm_eq lawful otherLawful holds

theorem hash?_of_test {a b : Option Sample} (lawful : LawfulValue a)
    (otherLawful : LawfulValue b)
    (holds : Equivalence.structural.test (system table) a b = .ok true) :
    ∃ h, (system table).hash? a = .ok (some h) ∧ (system table).hash? b = .ok (some h) := by
  rw [test_eq_true_iff table .structural lawful otherLawful] at holds
  cases a with
  | none =>
      cases b with
      | none => exact ⟨_, rfl, rfl⟩
      | some b => cases holds
  | some a =>
      cases b with
      | none => cases holds
      | some b =>
          obtain ⟨h, aGiven, bGiven⟩ :=
            hash_eq_of_form_eq (lawful a rfl) (otherLawful b rfl) (Option.some.inj holds)
          have aHash : (system table).hash a = .ok h := aGiven
          have bHash : (system table).hash b = .ok h := bGiven
          refine ⟨h, ?_, ?_⟩
          · simp only [TypeSystem.hash?, aHash]
          · simp only [TypeSystem.hash?, bHash]

theorem responds_of_lawful {a : Sample} {b : Option Sample} (lawful : Lawful a)
    (otherLawful : LawfulValue b) : Responds (system table) a b := by
  obtain ⟨h, hashed, -⟩ := hash_eq_of_form_eq lawful lawful rfl
  cases b with
  | none =>
      exact ⟨text_of_lawful lawful, ⟨_, declares_none lawful⟩, ⟨_, isEquivalentTo_none lawful⟩,
        .inl ⟨h, hashed⟩⟩
  | some b =>
      obtain ⟨answer, given, -⟩ := (declares_of_lawful lawful (otherLawful b rfl)).1
      obtain ⟨answer', given', -⟩ := equates_of_lawful lawful (otherLawful b rfl)
      exact ⟨text_of_lawful lawful, ⟨_, given⟩, ⟨_, given'⟩, .inl ⟨h, hashed⟩⟩

theorem isType_of_lawful {a : Sample} (lawful : Lawful a) : (system table).isType a = true := by
  cases lawful with
  | simple label family name isLawful => rfl
  | record label name rows isLiteral => rfl

end TypeLaws.Sample

namespace TypeLaws

theorem Law.broken_of_consistent {τ : Type} {system : TypeSystem τ} {equivalence : Equivalence}
    {actual provided : Option τ} (answers : Answers system equivalence actual provided)
    (expectation : Bool) (symmetric : answers.forward = answers.backward)
    (hashed : answers.forward = true →
      ∃ h, answers.actualHash = some h ∧ answers.providedHash = some h) :
    (Law.all.filter (Law.broken expectation answers) = [] ↔ answers.forward = expectation) ∧
      (Law.all.filter (Law.broken expectation answers) = [] ∨
        Law.all.filter (Law.broken expectation answers) = [.expected] ∨
        (expectation = true ∧
          Law.all.filter (Law.broken expectation answers) = [.expected, .hashed])) := by
  have noAsymmetry : Law.symmetric.broken expectation answers = false :=
    decide_eq_false (not_not_intro symmetric)
  have noDisagreement : answers.forward = true → Law.hashed.broken expectation answers = false := by
    intro holds
    obtain ⟨h, actualHash, providedHash⟩ := hashed holds
    rw [Law.broken, actualHash, providedHash]
    simp
  have unclaimed : expectation = false → Law.hashed.broken expectation answers = false := by
    intro unclaimed
    rw [Law.broken, unclaimed]
    rfl
  by_cases asExpected : answers.forward = expectation
  · have noSurprise : Law.expected.broken expectation answers = false :=
      decide_eq_false (not_not_intro asExpected)
    have noHashes : Law.hashed.broken expectation answers = false := by
      cases expectation with
      | true => exact noDisagreement asExpected
      | false => exact unclaimed rfl
    have none : Law.all.filter (Law.broken expectation answers) = [] := by
      simp [Law.all, noSurprise, noAsymmetry, noHashes]
    exact ⟨iff_of_true none asExpected, .inl none⟩
  · have surprise : Law.expected.broken expectation answers = true :=
      decide_eq_true asExpected
    cases hashes : Law.hashed.broken expectation answers with
    | false =>
        have one : Law.all.filter (Law.broken expectation answers) = [.expected] := by
          simp [Law.all, surprise, noAsymmetry, hashes]
        exact ⟨iff_of_false (by simp [one]) asExpected, .inr (.inl one)⟩
    | true =>
        have two : Law.all.filter (Law.broken expectation answers) = [.expected, .hashed] := by
          simp [Law.all, surprise, noAsymmetry, hashes]
        have claimed : expectation = true := by
          cases expectation with
          | true => rfl
          | false => exact absurd hashes (by rw [unclaimed rfl]; decide)
        exact ⟨iff_of_false (by simp [two]) asExpected, .inr (.inr ⟨claimed, two⟩)⟩

open Sample (LawfulValue)

theorem Subject.equality_of_lawful (table : Sample.Table) (subject : Subject Sample)
    (provided : Option Sample) (equivalence : Equivalence) (expectation : Bool)
    (journal : Journal) (lawful : LawfulValue subject.actual)
    (otherLawful : LawfulValue provided) :
    ∃ holds reached added,
      equivalence.test (Sample.system table) subject.actual provided = .ok holds ∧
      (subject.equality (Sample.system table) equivalence expectation provided).runFrom
          .collecting journal = (.ok (), reached) ∧
      reached.failures = journal.failures ++ added ∧
      (added = [] ↔ holds = expectation) ∧
      (added.map Failure.headline = [] ∨
        added.map Failure.headline = [Law.expected.headline] ∨
        (expectation = true ∧
          added.map Failure.headline = [Law.expected.headline, Law.hashed.headline])) := by
  obtain ⟨answers⟩ := Answers.exists_of_responds (Sample.system table) equivalence
    (fun t same => Sample.responds_of_lawful table (lawful t same) otherLawful)
    (fun t same => Sample.responds_of_lawful table (otherLawful t same) lawful)
  have compares : Subject.Compares (Sample.system table) equivalence expectation provided :=
    fun _ _ t same => Sample.isType_of_lawful table (otherLawful t same)
  obtain ⟨reached, ran, failures⟩ := answers.runFrom_equality_collecting compares journal
  obtain ⟨holds, given, given'⟩ := Sample.test_symm table equivalence lawful otherLawful
  have forward : answers.forward = holds :=
    Except.ok.inj (answers.forward_eq.symm.trans given)
  have backward : answers.backward = holds :=
    Except.ok.inj (answers.backward_eq.symm.trans given')
  have hashed : answers.forward = true →
      ∃ h, answers.actualHash = some h ∧ answers.providedHash = some h := by
    intro equal
    rw [← forward, equal] at given
    have structural :=
      Sample.test_structural_of_test table equivalence lawful otherLawful given
    obtain ⟨h, actualHash, providedHash⟩ :=
      Sample.hash?_of_test table lawful otherLawful structural
    exact ⟨h, Except.ok.inj (answers.actualHash_eq.symm.trans actualHash),
      Except.ok.inj (answers.providedHash_eq.symm.trans providedHash)⟩
  obtain ⟨nothing, laws⟩ :=
    Law.broken_of_consistent answers expectation (forward.trans backward.symm) hashed
  refine ⟨holds, reached, _, given, ran, failures, ?_, ?_⟩
  · rw [List.map_eq_nil_iff, nothing, forward]
  · rw [Law.map_failure_headline]
    rcases laws with none | one | ⟨claimed, two⟩
    · rw [none]
      exact .inl rfl
    · rw [one]
      exact .inr (.inl rfl)
    · rw [two]
      exact .inr (.inr ⟨claimed, rfl⟩)

/--
On lawful values both tests are equivalence relations, natural equality implies structural
equivalence, and that implies equal hashes. So an equality assertion about lawful values adds
nothing where the test is as expected, and else the failure that says so, which may be followed by
that about the hashes if equality was expected; an asymmetry is never reported.
-/
theorem lawful_values_raise_no_false_alarm (table : Sample.Table) :
    (∀ equivalence : Equivalence,
      (∀ a, LawfulValue a → equivalence.test (Sample.system table) a a = .ok true) ∧
      (∀ a b, LawfulValue a → LawfulValue b →
        ∃ holds, equivalence.test (Sample.system table) a b = .ok holds ∧
          equivalence.test (Sample.system table) b a = .ok holds) ∧
      ∀ a b c, LawfulValue a → LawfulValue b → LawfulValue c →
        equivalence.test (Sample.system table) a b = .ok true →
        equivalence.test (Sample.system table) b c = .ok true →
        equivalence.test (Sample.system table) a c = .ok true) ∧
    (∀ a b, LawfulValue a → LawfulValue b →
      (Equivalence.natural.test (Sample.system table) a b = .ok true →
        Equivalence.structural.test (Sample.system table) a b = .ok true) ∧
      (Equivalence.structural.test (Sample.system table) a b = .ok true →
        ∃ h, (Sample.system table).hash? a = .ok (some h) ∧
          (Sample.system table).hash? b = .ok (some h))) ∧
    ∀ (subject : Subject Sample) (provided : Option Sample) (equivalence : Equivalence)
      (expectation : Bool) (journal : Journal),
      LawfulValue subject.actual → LawfulValue provided →
      ∃ holds reached added,
        equivalence.test (Sample.system table) subject.actual provided = .ok holds ∧
        (subject.equality (Sample.system table) equivalence expectation provided).runFrom
            .collecting journal = (.ok (), reached) ∧
        reached.failures = journal.failures ++ added ∧
        (added = [] ↔ holds = expectation) ∧
        (added.map Failure.headline = [] ∨
          added.map Failure.headline = [Law.expected.headline] ∨
          (expectation = true ∧
            added.map Failure.headline = [Law.expected.headline, Law.hashed.headline])) := by
  refine ⟨?_, ?_, ?_⟩
  · intro equivalence
    refine ⟨?_, ?_, ?_⟩
    · intro a lawful
      exact (Sample.test_eq_true_iff table equivalence lawful lawful).mpr rfl
    · intro a b lawful otherLawful
      exact Sample.test_symm table equivalence lawful otherLawful
    · intro a b c aLawful bLawful cLawful first second
      rw [Sample.test_eq_true_iff table equivalence aLawful bLawful] at first
      rw [Sample.test_eq_true_iff table equivalence bLawful cLawful] at second
      rw [Sample.test_eq_true_iff table equivalence aLawful cLawful]
      exact first.trans second
  · intro a b lawful otherLawful
    exact ⟨Sample.test_structural_of_test table .natural lawful otherLawful,
      Sample.hash?_of_test table lawful otherLawful⟩
  · intro subject provided equivalence expectation journal lawful otherLawful
    exact subject.equality_of_lawful table provided equivalence expectation journal lawful
      otherLawful

/-- Two records with one set of properties, in different orders and under different names. -/
theorem lawful_values_raise_no_false_alarm_of_records :
    let x := Sample.simple ⟨none, 0⟩ .number "number"
    let y := Sample.simple ⟨none, 1⟩ .colliding "y"
    let left := Sample.record ⟨none, 2⟩ "Left" [("x", some x), ("y", some y)] (.bool true)
    let right := Sample.record ⟨none, 3⟩ "Right" [("y", some y), ("x", some x)] (.bool false)
    let system := Sample.system []
    (∃ h, system.hash? (some left) = .ok (some h) ∧ system.hash? (some right) = .ok (some h)) ∧
      ∃ reached,
        ((Subject.of (some left)).equality system .structural true (some right)).runFrom
          .collecting .empty = (.ok (), reached) ∧ reached.failures = [] := by
  intro x y left right system
  have xLawful : Sample.Lawful x := .simple _ _ _ rfl (fun fixed same => by cases same; rfl)
  have yLawful : Sample.Lawful y := .simple _ _ _ rfl (fun fixed same => by cases same)
  have leftLawful : LawfulValue (some left) := by
    intro sample same
    cases same
    refine .record _ _ _ _ ⟨by decide, by simp⟩ ?_
    intro key sample member
    rcases List.mem_pair.mp member with same | same
    · cases same
      exact xLawful
    · cases same
      exact yLawful
  have rightLawful : LawfulValue (some right) := by
    intro sample same
    cases same
    refine .record _ _ _ _ ⟨by decide, by simp⟩ ?_
    intro key sample member
    rcases List.mem_pair.mp member with same | same
    · cases same
      exact yLawful
    · cases same
      exact xLawful
  have equivalent : Equivalence.structural.test system (some left) (some right) = .ok true := rfl
  obtain ⟨-, relations, assertion⟩ := lawful_values_raise_no_false_alarm []
  constructor
  · exact (relations (some left) (some right) leftLawful rightLawful).2 equivalent
  · obtain ⟨holds, reached, added, given, ran, failures, nothing, -⟩ :=
      assertion (Subject.of (some left)) (some right) .structural true .empty
        leftLawful rightLawful
    have holdsTrue : holds = true := Except.ok.inj (given.symm.trans equivalent)
    rw [nothing.mpr holdsTrue] at failures
    exact ⟨reached, ran, failures⟩

end TypeLaws
