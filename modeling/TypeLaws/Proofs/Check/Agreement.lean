import TypeLaws.Proofs.Check.Run

/-!
A collecting run of a check and a raising one, side by side. They do the same up to the first report:
there the raising run ends with the reported facts, and the collecting one goes on. Agreement is kept
by putting checks together, so it holds of every check that only calls methods, logs and reports.
-/

namespace TypeLaws.Check

variable {α β : Type}

/-- What a run gives under the raising reporter when a collecting one gave `result` and `reported`. -/
def raisedBy (reported : List Failure) (result : Except Stop α) : Except Stop α :=
  match reported with
  | [] => result
  | first :: _ => .error (.unmet first.facts first.render)

def EndsByFault (result : Except Stop α) : Prop :=
  ∀ stop, result = .error stop → ∃ fault, stop = .fault fault

/-- `reported` is what a collecting run adds, and it tells how a raising run ends. -/
structure AgreesBy (check : Check α) (collecting raising : Journal) (reported : List Failure) :
    Prop where
  failures :
    (check.runFrom .collecting collecting).2.failures = collecting.failures ++ reported
  endsByFault : EndsByFault (check.runFrom .collecting collecting).1
  raised :
    (check.runFrom .raising raising).1 = raisedBy reported (check.runFrom .collecting collecting).1

/-- From whatever journals they start, a collecting and a raising run agree up to the first report. -/
def Agrees (check : Check α) : Prop :=
  ∀ collecting raising, ∃ reported, check.AgreesBy collecting raising reported

namespace Agrees

theorem runs {check : Check α} (agrees : Agrees check) (collecting raising : Journal) :
    ∃ result reached raisedReached reported,
      check.runFrom .collecting collecting = (result, reached) ∧
        check.runFrom .raising raising = (raisedBy reported result, raisedReached) ∧
        reached.failures = collecting.failures ++ reported ∧ EndsByFault result := by
  obtain ⟨reported, failures, endsByFault, raised⟩ := agrees collecting raising
  exact ⟨_, _, (check.runFrom .raising raising).2, reported, rfl, Prod.ext raised rfl, failures,
    endsByFault⟩

theorem pure (value : α) : Agrees (Pure.pure value : Check α) := by
  intro collecting raising
  refine ⟨[], ?_, ?_, rfl⟩
  · rw [runFrom_pure, List.append_nil]
  · intro stop ended
    cases ended

theorem call (outcome : Outcome α) : Agrees (Check.call outcome) := by
  intro collecting raising
  cases outcome with
  | ok value =>
      exact pure value collecting raising
  | error fault =>
      refine ⟨[], ?_, ?_, rfl⟩
      · rw [runFrom_call_error, List.append_nil]
      · intro stop ended
        rw [runFrom_call_error] at ended
        cases ended
        exact ⟨fault, rfl⟩

theorem log (record : Log.Record) : Agrees (Check.log record) := by
  intro collecting raising
  refine ⟨[], ?_, ?_, rfl⟩
  · rw [runFrom_log, Journal.note_failures, List.append_nil]
  · intro stop ended
    cases ended

theorem report (sink : Handle) (facts : List Fact) (name : String) :
    Agrees (Check.report sink facts name) := by
  intro collecting raising
  refine ⟨[⟨name, facts⟩], ?_, ?_, rfl⟩
  · rw [runFrom_report_collecting, Journal.collect_failures]
  · intro stop ended
    cases ended

/--
Once the raising run has ended, the collecting one goes on alone: what it reports later stands
behind the first failure and no longer matters.
-/
theorem bind {check : Check α} {next : α → Check β} (first : Agrees check)
    (later : ∀ value, Agrees (next value)) : Agrees (check >>= next) := by
  intro collecting raising
  obtain ⟨result, reached, raisedReached, reported, collected, ended, failures, endsByFault⟩ :=
    first.runs collecting raising
  cases result with
  | error stop =>
      refine ⟨reported, ?_, ?_, ?_⟩
      · rw [runFrom_bind_error next collected]
        exact failures
      · rw [runFrom_bind_error next collected]
        intro other same
        cases same
        exact endsByFault stop rfl
      · rw [runFrom_bind_error next collected]
        cases reported with
        | nil => rw [runFrom_bind_error next ended]; rfl
        | cons failure rest => rw [runFrom_bind_error next ended]; rfl
  | ok value =>
      obtain ⟨more, moreFailures, moreEndsByFault, moreRaised⟩ :=
        later value reached raisedReached
      rw [← runFrom_bind_ok next collected] at moreFailures moreEndsByFault moreRaised
      refine ⟨reported ++ more, ?_, moreEndsByFault, ?_⟩
      · rw [moreFailures, failures, List.append_assoc]
      · cases reported with
        | nil =>
            rw [runFrom_bind_ok next ended]
            exact moreRaised
        | cons failure rest => rw [runFrom_bind_error next ended]; rfl

end Agrees

def Silent (check : Check α) (reporter : Reporter) (journal : Journal) : Prop :=
  ∃ value reached, check.runFrom reporter journal = (.ok value, reached) ∧
    reached.failures = journal.failures

theorem Agrees.raising_ok_of_silent {check : Check α} (agrees : Agrees check)
    {reporter : Reporter} {journal : Journal} (silent : check.Silent reporter journal) :
    ∃ value reached, check.runFrom .raising journal = (.ok value, reached) := by
  obtain ⟨value, reached, ran, unchanged⟩ := silent
  cases reporter with
  | raising => exact ⟨value, reached, ran⟩
  | collecting =>
      obtain ⟨result, reached', raisedReached, reported, collected, ended, failures, -⟩ :=
        agrees.runs journal journal
      rw [ran] at collected
      cases collected
      have nothing : reported = [] :=
        List.append_right_eq_self.mp (failures.symm.trans unchanged)
      subst nothing
      exact ⟨value, raisedReached, ended⟩

end TypeLaws.Check
