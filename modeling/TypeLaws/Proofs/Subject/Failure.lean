import TypeLaws.Proofs.Check.Run
import TypeLaws.Subject

/-!
The failure that a subject reports, and runs of checks that may report it on their way. A subject
whose debug string faults reports nothing, under either reporter.
-/

namespace TypeLaws

variable {τ : Type} (system : TypeSystem τ)

/-- The failure that a subject reports of some facts, given its debug string. -/
def Subject.failure (subject : Subject τ) (name : String) (facts : List Fact)
    (actualText : String) : Failure :=
  ⟨name, facts ++ subject.context facts ++ [Fact.of "actual" (.text actualText)]⟩

def Journal.collectIf (journal : Journal) (condition : Bool) (failure : Failure) : Journal :=
  if condition then journal.collect failure else journal

@[simp]
theorem Journal.collectIf_failures (journal : Journal) (condition : Bool) (failure : Failure) :
    (journal.collectIf condition failure).failures =
      journal.failures ++ if condition then [failure] else [] := by
  cases condition with
  | true => rfl
  | false => exact (List.append_nil _).symm

namespace Subject

theorem runFrom_fail_collecting (subject : Subject τ) (name : String) (facts : List Fact)
    {actualText : String} (shown : subject.debugText system = .ok actualText)
    (journal : Journal) :
    (subject.fail system name facts).runFrom .collecting journal =
      (.ok (), journal.collect (subject.failure name facts actualText)) := by
  unfold fail
  rw [shown, Check.runFrom_bind_ok _ (Check.runFrom_call_ok _ _ _)]
  exact Check.runFrom_report_collecting _ _ _ _

theorem runFrom_fail_raising_ne_ok (subject : Subject τ) (name : String) (facts : List Fact)
    (journal reached : Journal) :
    (subject.fail system name facts).runFrom .raising journal ≠ (.ok (), reached) := by
  intro passed
  unfold fail at passed
  obtain ⟨actualText, middle, -, reported⟩ := Check.exists_of_runFrom_bind_ok passed
  rw [Check.runFrom_report_raising] at reported
  cases reported

theorem not_of_runFrom_fail_if_then_raising (subject : Subject τ) (name : String)
    (facts : List Fact) {condition : Prop} [Decidable condition] {α : Type}
    {next : Unit → Check α} {journal reached : Journal} {value : α}
    (ran : (if condition then subject.fail system name facts >>= next else next ()).runFrom
      .raising journal = (.ok value, reached)) :
    ¬condition ∧ (next ()).runFrom .raising journal = (.ok value, reached) := by
  by_cases holds : condition
  · rw [if_pos holds] at ran
    obtain ⟨first, middle, failed, -⟩ := Check.exists_of_runFrom_bind_ok ran
    exact absurd failed (subject.runFrom_fail_raising_ne_ok system name facts journal middle)
  · rw [if_neg holds] at ran
    exact ⟨holds, ran⟩

theorem runFrom_fail_if (subject : Subject τ) (name : String) (facts : List Fact)
    {actualText : String} (shown : subject.debugText system = .ok actualText)
    (journal : Journal) (condition : Prop) [Decidable condition] :
    (if condition then subject.fail system name facts else pure ()).runFrom
        .collecting journal =
      (.ok (),
        journal.collectIf (decide condition) (subject.failure name facts actualText)) := by
  by_cases holds : condition
  · rw [if_pos holds, subject.runFrom_fail_collecting system name facts shown journal,
      Journal.collectIf, if_pos (decide_eq_true holds)]
  · rw [if_neg holds, Journal.collectIf, decide_eq_false holds]
    rfl

/-- A failure that is reported in one case only, with what follows it in both. -/
theorem runFrom_fail_if_then (subject : Subject τ) (name : String) (facts : List Fact)
    {actualText : String} (shown : subject.debugText system = .ok actualText)
    (journal : Journal) (condition : Prop) [Decidable condition] {α : Type}
    (next : Unit → Check α) :
    (if condition then subject.fail system name facts >>= next else next ()).runFrom
        .collecting journal =
      (next ()).runFrom .collecting
        (journal.collectIf (decide condition) (subject.failure name facts actualText)) := by
  by_cases holds : condition
  · rw [if_pos holds,
      Check.runFrom_bind_ok _ (subject.runFrom_fail_collecting system name facts shown journal)]
    rw [Journal.collectIf, if_pos (decide_eq_true holds)]
  · rw [if_neg holds, Journal.collectIf, decide_eq_false holds]
    rfl

end Subject

end TypeLaws
