import TypeLaws.Proofs.Equality.Comparison
import TypeLaws.Sample.System

/-!
The log record of an equality check. It stands between the report about the forward test and the
one about symmetry, so a reporter that ends the check at the first of them leaves no record of it.
-/

namespace TypeLaws

def Journal.recordsOf (journal : Journal) (logger : String) : List Log.Record :=
  journal.records.filter (·.logger == logger)

namespace Journal

theorem recordsOf_note_of_ne {logger : String} {record : Log.Record}
    (other : record.logger ≠ logger) (journal : Journal) :
    (journal.note record).recordsOf logger = journal.recordsOf logger := by
  simp [recordsOf, note, List.filter_append, other]

theorem recordsOf_note_self (record : Log.Record) (journal : Journal) :
    (journal.note record).recordsOf record.logger =
      journal.recordsOf record.logger ++ [record] := by
  simp [recordsOf, note, List.filter_append]

end Journal

namespace Check

variable {α β : Type} {reporter : Reporter} {logger : String}

/-- However the check ends, `added` is what it logs on a logger. -/
def Logs (reporter : Reporter) (logger : String) (check : Check α) (added : List Log.Record) :
    Prop :=
  ∀ journal,
    (check.runFrom reporter journal).2.recordsOf logger = journal.recordsOf logger ++ added

namespace Logs

theorem pure (value : α) : Logs reporter logger (Pure.pure value : Check α) [] := by
  intro journal
  exact (List.append_nil _).symm

theorem call (outcome : Outcome α) : Logs reporter logger (Check.call outcome) [] := by
  intro journal
  rw [List.append_nil]
  cases outcome with
  | ok value => rfl
  | error fault => rfl

theorem report (other : Log.reporterLogger ≠ logger) (sink : Handle) (facts : List Fact)
    (name : String) : Logs reporter logger (Check.report sink facts name) [] := by
  intro journal
  rw [List.append_nil]
  cases reporter with
  | raising => exact Journal.recordsOf_note_of_ne other journal
  | collecting => exact Journal.recordsOf_note_of_ne other journal

/-- Where nothing that follows logs on the logger either, it does not matter how far a run gets. -/
theorem bind {check : Check α} {next : α → Check β} (first : Logs reporter logger check [])
    (later : ∀ value, Logs reporter logger (next value) []) :
    Logs reporter logger (check >>= next) [] := by
  intro journal
  rcases ran : check.runFrom reporter journal with ⟨result, reached⟩
  have unchanged := first journal
  rw [ran] at unchanged
  cases result with
  | error stop =>
      rw [runFrom_bind_error next ran]
      exact unchanged
  | ok value =>
      rw [runFrom_bind_ok next ran, later value reached, List.append_nil]
      exact unchanged

theorem ifThenNext {condition : Prop} [Decidable condition] {check : Check Unit}
    {next : Unit → Check β} (first : Logs reporter logger check [])
    (later : Logs reporter logger (next ()) []) :
    Logs reporter logger (if condition then check >>= next else next ()) [] := by
  split
  · exact first.bind fun _ => later
  · exact later

theorem afterCall {outcome : Outcome α} {value : α} {next : α → Check β}
    {added : List Log.Record} (given : outcome = .ok value)
    (later : Logs reporter logger (next value) added) :
    Logs reporter logger (Check.call outcome >>= next) added := by
  intro journal
  rw [given, runFrom_bind_ok next (runFrom_call_ok value reporter journal)]
  exact later journal

theorem afterLog {record : Log.Record} {next : Unit → Check β} {added : List Log.Record}
    (later : Logs reporter record.logger (next ()) added) :
    Logs reporter record.logger (Check.log record >>= next) (record :: added) := by
  intro journal
  rw [runFrom_bind_ok next (runFrom_log record reporter journal), later (journal.note record),
    Journal.recordsOf_note_self, List.append_assoc, List.singleton_append]

end Logs

end Check

namespace Subject

open Check (Logs)

variable {τ : Type} {system : TypeSystem τ} {reporter : Reporter}

theorem fail_logs (subject : Subject τ) (name : String) (facts : List Fact) :
    Logs reporter Log.assertionLogger (subject.fail system name facts) [] := by
  unfold fail
  exact (Logs.call _).bind fun actual => Logs.report (by decide) _ _ _

/-- A raising reporter ends the check at the failure, so what follows it is not logged. -/
theorem fail_if_then_logs (subject : Subject τ) (name : String) (facts : List Fact)
    {actualText : String} (shown : subject.debugText system = .ok actualText) {condition : Prop}
    [Decidable condition] {α : Type} {next : Unit → Check α} {added : List Log.Record}
    (later : Logs reporter Log.assertionLogger (next ()) added) :
    Logs reporter Log.assertionLogger
      (if condition then subject.fail system name facts >>= next else next ())
      (if reporter = .raising ∧ condition then [] else added) := by
  by_cases holds : condition
  · rw [if_pos holds]
    intro journal
    have unchanged : Logs reporter Log.assertionLogger (subject.fail system name facts) [] :=
      subject.fail_logs name facts
    have unchanged := unchanged journal
    cases reporter with
    | raising =>
        rcases ran : (subject.fail system name facts).runFrom .raising journal with
          ⟨result, reached⟩
        rw [ran] at unchanged
        cases result with
        | ok value =>
            -- A raising report never lets the check go on.
            exact absurd ran (subject.runFrom_fail_raising_ne_ok system name facts journal _)
        | error stop =>
            rw [Check.runFrom_bind_error next ran, if_pos ⟨rfl, holds⟩]
            exact unchanged
    | collecting =>
        have ran := subject.runFrom_fail_collecting system name facts shown journal
        rw [ran, List.append_nil] at unchanged
        rw [Check.runFrom_bind_ok next ran, later, unchanged]
        rw [if_neg fun both => by cases both.1]
  · rw [if_neg holds, if_neg fun both => holds both.2]
    exact later

theorem checkHashes_logs (subject : Subject τ) (expectation : Bool) (name : String)
    (provided : Option τ) (shown : Fact) :
    Logs reporter Log.assertionLogger
      (subject.checkHashes system expectation name provided shown) [] := by
  unfold checkHashes
  split
  · refine (Logs.call _).bind fun actualHash => (Logs.call _).bind fun providedHash => ?_
    split
    · exact subject.fail_logs name _
    · exact Logs.pure _
  · exact Logs.pure _

variable {equivalence : Equivalence} {provided : Option τ}

theorem checkEquality_logs (subject : Subject τ) (expectation : Bool) (name : String)
    (comparison : Comparison system equivalence subject.actual provided) (reporter : Reporter) :
    Logs reporter Log.assertionLogger
      (subject.checkEquality system equivalence expectation name provided)
      (if reporter = .raising ∧ comparison.forward ≠ expectation then []
        else [comparison.record]) := by
  unfold checkEquality
  refine Logs.afterCall comparison.providedText_eq ?_
  refine Logs.afterCall comparison.actualText_eq ?_
  refine Logs.afterCall comparison.forward_eq ?_
  refine subject.fail_if_then_logs name _ comparison.actualText_eq ?_
  refine Logs.afterCall comparison.backward_eq ?_
  refine Logs.afterLog ?_
  exact (subject.fail_logs name _).ifThenNext
    (subject.checkHashes_logs expectation name provided comparison.providedFact)

end Subject

/--
An equality assertion that reaches the comparison logs one record about it, with both debug strings
and both tests, unless a raising reporter ends it first: where the forward test is not as expected,
that reporter leaves no record of the check.
-/
theorem equality_logs_check_unless_stopped {τ : Type} (system : TypeSystem τ) (subject : Subject τ)
    (equivalence : Equivalence) (expectation : Bool) (provided : Option τ) (reporter : Reporter)
    (journal : Journal) (comparison : Comparison system equivalence subject.actual provided)
    (compares : Subject.Compares system equivalence expectation provided) :
    ((subject.equality system equivalence expectation provided).runFrom
        reporter journal).2.recordsOf Log.assertionLogger =
      journal.recordsOf Log.assertionLogger ++
        if reporter = .raising ∧ comparison.forward ≠ expectation then []
        else
          [⟨.debug, Log.assertionLogger,
            equivalence.word ++ " check: " ++ comparison.actualText ++ " vs "
              ++ comparison.providedText ++ ": forward=" ++ Subject.shownTruth comparison.forward
              ++ ", backward=" ++ Subject.shownTruth comparison.backward⟩] := by
  rw [subject.equality_eq_checkEquality expectation compares]
  exact subject.checkEquality_logs expectation _ comparison reporter journal

/--
A number type is compared with a text type. They are not equal, so a collecting reporter gets to the
record of the claim that they are, and a raising one to that of the claim that they are not.
-/
theorem equality_logs_check_of_number_and_text :
    let number := Sample.simple ⟨none, 0⟩ .number "number"
    let text := Sample.simple ⟨none, 1⟩ .string "string"
    let records := fun reporter expectation =>
      (((Subject.of (some number)).equality (Sample.system []) .natural expectation
        (some text)).runFrom reporter .empty).2.recordsOf Log.assertionLogger
    let record : Log.Record := ⟨.debug, Log.assertionLogger,
      "natural" ++ " check: " ++ "number [instanceof tests.fakes.NumberType]" ++ " vs "
        ++ "string [instanceof tests.fakes.StringType]" ++ ": forward=" ++ "False"
        ++ ", backward=" ++ "False"⟩
    records .collecting true = [record] ∧ records .raising false = [record] := by
  intro number text records record
  have denies : (Sample.system []).declaresEqual number (some text) = .ok (.bool false) := by
    simp [Sample.system, Sample.declares, Sample.declaresByName, number, text, Sample.isFake,
      Sample.family?]
  have denies' : (Sample.system []).declaresEqual text (some number) = .ok (.bool false) := by
    simp [Sample.system, Sample.declares, Sample.declaresByName, number, text, Sample.isFake,
      Sample.family?]
  let comparison : Comparison (Sample.system []) .natural (some number) (some text) :=
    ⟨"number [instanceof tests.fakes.NumberType]", "string [instanceof tests.fakes.StringType]",
      false, false, rfl, rfl, Equivalence.natural_test_some _ denies,
      Equivalence.natural_test_some _ denies'⟩
  have compares (expectation : Bool) :
      Subject.Compares (Sample.system []) .natural expectation (some text) := by
    intro _ _ t same
    cases same
    decide
  constructor
  · exact equality_logs_check_unless_stopped (Sample.system []) (Subject.of (some number)) .natural
      true (some text) .collecting .empty comparison (compares true)
  · exact equality_logs_check_unless_stopped (Sample.system []) (Subject.of (some number)) .natural
      false (some text) .raising .empty comparison (compares false)

/-- A number type that is claimed to be equal to an absent one: the claim ends without a record. -/
theorem raising_equality_leaves_no_record :
    let number := Sample.simple ⟨none, 0⟩ .number "number"
    (((Subject.of (some number)).equality (Sample.system []) .natural true none).runFrom
        .raising .empty).2.recordsOf Log.assertionLogger = [] := by
  intro number
  have denies : (Sample.system []).declaresEqual number none = .ok .notImplemented := by
    simp [Sample.system, Sample.declares, Sample.declaresByName, number]
  let comparison : Comparison (Sample.system []) .natural (some number) none :=
    ⟨_, _, _, _, rfl, rfl, Equivalence.natural_test_some _ denies, rfl⟩
  have compares : Subject.Compares (Sample.system []) .natural true none := by
    intro _ _ t same
    cases same
  rw [(Subject.of (some number)).equality_eq_checkEquality true compares]
  exact (Subject.of (some number)).checkEquality_logs true _ comparison .raising .empty

end TypeLaws
