import TypeLaws.Proofs.Equality.Verdict

/-!
Equality assertions with their two sides exchanged. Both ask the same questions of the same types, in
another order, so the answers are the same and only stand for the other side. Symmetry and hashes
speak of both sides alike; the forward test is a different one, and the two forward tests differ just
where symmetry is broken. So it does not matter for the verdict which of two types is the actual one.
-/

namespace TypeLaws

variable {τ : Type} {system : TypeSystem τ} {equivalence : Equivalence}

namespace Answers

variable {actual provided : Option τ}

def exchange (answers : Answers system equivalence actual provided) :
    Answers system equivalence provided actual where
  actualText := answers.providedText
  providedText := answers.actualText
  forward := answers.backward
  backward := answers.forward
  actualText_eq := answers.providedText_eq
  providedText_eq := answers.actualText_eq
  forward_eq := answers.backward_eq
  backward_eq := answers.forward_eq
  actualHash := answers.providedHash
  providedHash := answers.actualHash
  actualHash_eq := answers.providedHash_eq
  providedHash_eq := answers.actualHash_eq

end Answers

namespace Law

variable {actual provided : Option τ}

theorem broken_symmetric_exchange (expectation : Bool)
    (answers : Answers system equivalence actual provided) :
    Law.symmetric.broken expectation answers.exchange =
      Law.symmetric.broken expectation answers := by
  change decide (answers.backward ≠ answers.forward) = decide (answers.forward ≠ answers.backward)
  rw [decide_eq_decide]
  exact ne_comm

theorem broken_hashed_exchange (expectation : Bool)
    (answers : Answers system equivalence actual provided) :
    Law.hashed.broken expectation answers.exchange = Law.hashed.broken expectation answers := by
  change (expectation && (answers.providedHash.isNone || answers.actualHash.isNone ||
      answers.providedHash != answers.actualHash)) = (expectation && _)
  rw [Bool.or_comm answers.providedHash.isNone, bne_comm]

theorem broken_expected_exchange (expectation : Bool)
    (answers : Answers system equivalence actual provided) :
    (Law.expected.broken expectation answers ≠ Law.expected.broken expectation answers.exchange) ↔
      Law.symmetric.broken expectation answers = true := by
  change decide (answers.forward ≠ expectation) ≠ decide (answers.backward ≠ expectation) ↔
    decide (answers.forward ≠ answers.backward) = true
  cases answers.forward <;> cases answers.backward <;> cases expectation <;> decide

theorem unbroken_exchange {expectation : Bool}
    (answers : Answers system equivalence actual provided)
    (unbroken : ∀ law : Law, law.broken expectation answers = false) (law : Law) :
    law.broken expectation answers.exchange = false := by
  cases law with
  | expected =>
      rw [← unbroken .expected]
      apply Decidable.byContradiction
      intro differ
      have asymmetric := (broken_expected_exchange expectation answers).mp (Ne.symm differ)
      rw [unbroken .symmetric] at asymmetric
      cases asymmetric
  | symmetric =>
      rw [broken_symmetric_exchange]
      exact unbroken .symmetric
  | hashed =>
      rw [broken_hashed_exchange]
      exact unbroken .hashed

theorem headline_injective {law other : Law} (same : law.headline = other.headline) :
    law = other := by
  cases law <;> cases other <;> simp_all [headline]

def ReportedIn (law : Law) (failures : List Failure) : Prop :=
  ∃ failure ∈ failures, failure.headline = law.headline

def failures (subject : Subject τ) (name : String) (expectation : Bool)
    (answers : Answers system equivalence actual provided) : List Failure :=
  (Law.all.filter (Law.broken expectation answers)).map
    (Law.failure subject name expectation answers)

theorem mem_failures_iff {subject : Subject τ} {name : String} {expectation : Bool}
    {answers : Answers system equivalence actual provided} {failure : Failure} :
    failure ∈ failures subject name expectation answers ↔
      ∃ law : Law, law.broken expectation answers = true ∧
        law.failure subject name expectation answers = failure := by
  have everyLaw (law : Law) : law ∈ Law.all := by cases law <;> decide
  simp [failures, everyLaw]

theorem reportedIn_failures_iff {law : Law} {subject : Subject τ} {name : String}
    {expectation : Bool} {answers : Answers system equivalence actual provided} :
    law.ReportedIn (failures subject name expectation answers) ↔
      law.broken expectation answers = true := by
  constructor
  · rintro ⟨failure, member, headline⟩
    obtain ⟨other, broken, rfl⟩ := mem_failures_iff.mp member
    rw [failure_headline] at headline
    exact headline_injective headline ▸ broken
  · intro broken
    exact ⟨_, mem_failures_iff.mpr ⟨law, broken, rfl⟩, failure_headline _ _ _ _ _⟩

/-- Only one failure reports a law, and it shows the answers. -/
theorem eq_failure_of_headline {law : Law} {subject : Subject τ} {name : String}
    {expectation : Bool} {answers : Answers system equivalence actual provided} {failure : Failure}
    (member : failure ∈ failures subject name expectation answers)
    (headline : failure.headline = law.headline) :
    failure = law.failure subject name expectation answers := by
  obtain ⟨other, broken, rfl⟩ := mem_failures_iff.mp member
  rw [failure_headline] at headline
  rw [headline_injective headline]

theorem failures_eq_nil_iff {subject : Subject τ} {name : String} {expectation : Bool}
    {answers : Answers system equivalence actual provided} :
    failures subject name expectation answers = [] ↔
      ∀ law : Law, law.broken expectation answers = false := by
  rw [List.eq_nil_iff_forall_not_mem]
  constructor
  · intro none law
    rw [Bool.eq_false_iff]
    intro broken
    exact none _ (mem_failures_iff.mpr ⟨law, broken, rfl⟩)
  · intro unbroken failure member
    obtain ⟨law, broken, -⟩ := mem_failures_iff.mp member
    rw [unbroken law] at broken
    cases broken

end Law

theorem Answers.run {actual provided : Option τ}
    (answers : Answers system equivalence actual provided) (expectation : Bool)
    (isType : ∀ t, provided = some t → system.isType t = true) (journal : Journal) :
    ∃ reached,
      ((Subject.of actual).equality system equivalence expectation provided).runFrom
          .collecting journal = (.ok (), reached) ∧
        reached.failures = journal.failures ++
          Law.failures (Subject.of actual) (Subject.equalityName equivalence expectation)
            expectation answers := by
  let ofSubject : Answers system equivalence (Subject.of actual).actual provided := answers
  exact ofSubject.runFrom_equality_collecting (fun _ _ => isType) journal

/--
It does not matter for an equality assertion which of two types is the actual one. If it is silent in
one orientation it is in the other. The failures about symmetry and about hashes are reported in both
orientations or in none, where they show the same results, exchanged; and the failure about the
forward test is reported in exactly one of the two if and only if symmetry is reported to be broken.
-/
theorem verdict_same_from_either_side (system : TypeSystem τ) (equivalence : Equivalence)
    (expectation : Bool) (a p : Option τ) (aIsType : ∀ t, a = some t → system.isType t = true)
    (pIsType : ∀ t, p = some t → system.isType t = true)
    (aResponds : ∀ t, a = some t → Responds system t p)
    (pResponds : ∀ t, p = some t → Responds system t a) (journal other : Journal) :
    let asymmetry (actualText providedText : String) (forward backward : Bool) : List Fact :=
      [Fact.simple "equality should be symmetric",
        Fact.of (equivalence.describe actualText providedText) (.bool forward),
        Fact.of (equivalence.describe providedText actualText) (.bool backward),
        Fact.of "provided" (.text providedText), Fact.of "actual" (.text actualText)]
    let hashes (actualText providedText : String) (actualHash providedHash : Option Int) :
        List Fact :=
      [Fact.simple "if two types are equal their hashes must also be equal",
        Fact.of "hash(actual)" (Subject.shownHash actualHash),
        Fact.of "hash(provided)" (Subject.shownHash providedHash),
        Fact.of "provided" (.text providedText), Fact.of "actual" (.text actualText)]
    ∃ (answers : Answers system equivalence a p) (here there : List Failure),
      (∃ reached, ((Subject.of a).equality system equivalence expectation p).runFrom
          .collecting journal = (.ok (), reached) ∧
        reached.failures = journal.failures ++ here) ∧
      (∃ reached, ((Subject.of p).equality system equivalence expectation a).runFrom
          .collecting other = (.ok (), reached) ∧
        reached.failures = other.failures ++ there) ∧
      (here = [] ↔ there = []) ∧
      (Law.symmetric.ReportedIn here ↔ Law.symmetric.ReportedIn there) ∧
      (∀ failure ∈ here, failure.headline = Law.symmetric.headline → failure.facts =
        asymmetry answers.actualText answers.providedText answers.forward answers.backward) ∧
      (∀ failure ∈ there, failure.headline = Law.symmetric.headline → failure.facts =
        asymmetry answers.providedText answers.actualText answers.backward answers.forward) ∧
      (Law.hashed.ReportedIn here ↔ Law.hashed.ReportedIn there) ∧
      (∀ failure ∈ here, failure.headline = Law.hashed.headline → failure.facts =
        hashes answers.actualText answers.providedText answers.actualHash answers.providedHash) ∧
      (∀ failure ∈ there, failure.headline = Law.hashed.headline → failure.facts =
        hashes answers.providedText answers.actualText answers.providedHash answers.actualHash) ∧
      (Law.expected.ReportedIn here ∧ ¬Law.expected.ReportedIn there ∨
          Law.expected.ReportedIn there ∧ ¬Law.expected.ReportedIn here ↔
        Law.symmetric.ReportedIn here) := by
  intro asymmetry hashes
  obtain ⟨answers⟩ := Answers.exists_of_responds system equivalence aResponds pResponds
  obtain ⟨reached, ran, failures⟩ := answers.run expectation pIsType journal
  obtain ⟨reachedOther, ranOther, failuresOther⟩ :=
    answers.exchange.run expectation aIsType other
  have symmetric := Law.broken_symmetric_exchange expectation answers
  have hashed := Law.broken_hashed_exchange expectation answers
  have expected := Law.broken_expected_exchange expectation answers
  refine ⟨answers, _, _, ⟨reached, ran, failures⟩, ⟨reachedOther, ranOther, failuresOther⟩,
    ?_, ?_, ?_, ?_, ?_, ?_, ?_, ?_⟩
  · rw [Law.failures_eq_nil_iff, Law.failures_eq_nil_iff]
    exact ⟨Law.unbroken_exchange answers, Law.unbroken_exchange answers.exchange⟩
  · rw [Law.reportedIn_failures_iff, Law.reportedIn_failures_iff, symmetric]
  · intro failure member headline
    rw [Law.eq_failure_of_headline member headline]
    rfl
  · intro failure member headline
    rw [Law.eq_failure_of_headline member headline]
    rfl
  · rw [Law.reportedIn_failures_iff, Law.reportedIn_failures_iff, hashed]
  · intro failure member headline
    rw [Law.eq_failure_of_headline member headline]
    rfl
  · intro failure member headline
    rw [Law.eq_failure_of_headline member headline]
    rfl
  · rw [Law.reportedIn_failures_iff, Law.reportedIn_failures_iff, Law.reportedIn_failures_iff,
      ← expected]
    cases Law.expected.broken expectation answers <;>
      cases Law.expected.broken expectation answers.exchange <;> decide

/--
A type that claims to equal the absent one, which does not claim to equal it: symmetry is reported on
either side, and the forward test only where the absent type is the actual one.
-/
theorem verdict_same_of_null_intolerant_type :
    let intolerant := Sample.simple ⟨none, 0⟩ .nullIntolerant "x"
    let check (actual provided : Option Sample) :=
      ((Subject.of actual).equality (Sample.system []) .natural true provided).runFrom
        .collecting .empty
    ∃ here there : Journal,
      check (some intolerant) none = (.ok (), here) ∧
      check none (some intolerant) = (.ok (), there) ∧
      Law.symmetric.ReportedIn here.failures ∧ Law.symmetric.ReportedIn there.failures ∧
      ¬Law.expected.ReportedIn here.failures ∧ Law.expected.ReportedIn there.failures := by
  intro intolerant check
  have claims : (Sample.system []).declaresEqual intolerant none = .ok (.bool true) := by
    simp [Sample.system, Sample.declares, intolerant]
  have isType (t : Sample) (same : some intolerant = some t) :
      (Sample.system []).isType t = true := by
    cases same
    decide
  have noneIsType (t : Sample) (same : none = some t) : (Sample.system []).isType t = true := by
    cases same
  have responds (t : Sample) (same : some intolerant = some t) :
      Responds (Sample.system []) t none := by
    cases same
    exact
      { text := ⟨_, rfl⟩
        equality := ⟨_, claims⟩
        equivalence := ⟨_, rfl⟩
        hash := .inl ⟨_, rfl⟩ }
  obtain ⟨answers, here, there, ⟨reached, ran, failures⟩, ⟨reachedOther, ranOther, failuresOther⟩,
      -, symmetric, -, -, -, -, -, expected⟩ :=
    verdict_same_from_either_side (Sample.system []) .natural true (some intolerant) none isType
      noneIsType responds (by rintro t ⟨⟩) .empty .empty
  have forward : answers.forward = true :=
    Except.ok.inj (answers.forward_eq.symm.trans
      (Equivalence.natural_test_some (Sample.system []) claims))
  have backward : answers.backward = false := Except.ok.inj (answers.backward_eq.symm.trans rfl)
  -- The same run, as the answers have it, tells which laws are reported.
  obtain ⟨_, same, own⟩ := answers.run true noneIsType .empty
  rw [ran] at same
  cases same
  change reached.failures = here at failures
  change reachedOther.failures = there at failuresOther
  have asymmetric : Law.symmetric.ReportedIn reached.failures := by
    rw [own]
    exact Law.reportedIn_failures_iff.mpr (by simp [Law.broken, forward, backward])
  have unexpected : ¬Law.expected.ReportedIn reached.failures := by
    rw [own]
    exact fun reported => absurd (Law.reportedIn_failures_iff.mp reported)
      (by simp [Law.broken, forward])
  subst failures failuresOther
  refine ⟨reached, reachedOther, ran, ranOther, asymmetric, symmetric.mp asymmetric, unexpected, ?_⟩
  rcases expected.mpr asymmetric with ⟨reported, -⟩ | ⟨reported, -⟩
  · exact absurd reported unexpected
  · exact reported

end TypeLaws
