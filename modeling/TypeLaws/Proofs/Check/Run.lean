import TypeLaws.Report.Collector

/-!
Running a check step by step: what `runFrom` gives for each way in which checks are made and put
together. Statements about assertions are built from these and never look into the layers of
`Check`.
-/

namespace TypeLaws

def Journal.collect (journal : Journal) (failure : Failure) : Journal :=
  ⟨journal.failures ++ [failure],
    journal.records ++ [⟨.info, Log.reporterLogger, Check.collectMessage failure⟩]⟩

def Journal.note (journal : Journal) (record : Log.Record) : Journal :=
  ⟨journal.failures, journal.records ++ [record]⟩

@[simp]
theorem Journal.collect_failures (journal : Journal) (failure : Failure) :
    (journal.collect failure).failures = journal.failures ++ [failure] :=
  rfl

@[simp]
theorem Journal.note_failures (journal : Journal) (record : Log.Record) :
    (journal.note record).failures = journal.failures :=
  rfl

namespace Check

variable {α β : Type}

@[simp]
theorem runFrom_pure (value : α) (reporter : Reporter) (journal : Journal) :
    (pure value : Check α).runFrom reporter journal = (.ok value, journal) :=
  rfl

theorem runUnder_bind (check : Check α) (next : α → Check β) (reporters : Handle → Reporter)
    (journal : Journal) :
    (check >>= next).runUnder reporters journal =
      match check.runUnder reporters journal with
      | (.ok value, reached) => (next value).runUnder reporters reached
      | (.error stop, reached) => (.error stop, reached) := by
  change (ExceptT.bind (check reporters) fun value => next value reporters).run.run journal = _
  unfold runUnder
  cases ran : (check reporters).run.run journal with
  | mk result reached =>
      have here : (check reporters) journal = (result, reached) := ran
      simp only [ExceptT.bind, ExceptT.run, ExceptT.mk, StateT.run, bind, StateT.bind, here]
      cases result with
      | ok value => rfl
      | error stop => rfl

theorem runFrom_bind (check : Check α) (next : α → Check β) (reporter : Reporter)
    (journal : Journal) :
    (check >>= next).runFrom reporter journal =
      match check.runFrom reporter journal with
      | (.ok value, reached) => (next value).runFrom reporter reached
      | (.error stop, reached) => (.error stop, reached) :=
  runUnder_bind check next (fun _ => reporter) journal

theorem runFrom_bind_ok {check : Check α} (next : α → Check β) {reporter : Reporter}
    {journal reached : Journal} {value : α}
    (ran : check.runFrom reporter journal = (.ok value, reached)) :
    (check >>= next).runFrom reporter journal = (next value).runFrom reporter reached := by
  rw [runFrom_bind, ran]

theorem runFrom_bind_error {check : Check α} (next : α → Check β) {reporter : Reporter}
    {journal reached : Journal} {stop : Stop}
    (ran : check.runFrom reporter journal = (.error stop, reached)) :
    (check >>= next).runFrom reporter journal = (.error stop, reached) := by
  rw [runFrom_bind, ran]

theorem exists_of_runFrom_bind_ok {check : Check α} {next : α → Check β} {reporter : Reporter}
    {journal reached : Journal} {value : β}
    (ran : (check >>= next).runFrom reporter journal = (.ok value, reached)) :
    ∃ first middle, check.runFrom reporter journal = (.ok first, middle) ∧
      (next first).runFrom reporter middle = (.ok value, reached) := by
  rcases here : check.runFrom reporter journal with ⟨result, middle⟩
  cases result with
  | ok first =>
      rw [runFrom_bind_ok next here] at ran
      exact ⟨first, middle, rfl, ran⟩
  | error stop =>
      rw [runFrom_bind_error next here] at ran
      cases ran

@[simp]
theorem runFrom_call_ok (value : α) (reporter : Reporter) (journal : Journal) :
    (call (.ok value)).runFrom reporter journal = (.ok value, journal) :=
  rfl

@[simp]
theorem runFrom_call_error (fault : Fault) (reporter : Reporter) (journal : Journal) :
    (call (.error fault : Outcome α)).runFrom reporter journal = (.error (.fault fault), journal) :=
  rfl

theorem eq_ok_of_runFrom_call {outcome : Outcome α} {reporter : Reporter}
    {journal reached : Journal} {value : α}
    (ran : (call outcome).runFrom reporter journal = (.ok value, reached)) :
    outcome = .ok value ∧ reached = journal := by
  cases outcome with
  | ok given =>
      cases ran
      exact ⟨rfl, rfl⟩
  | error fault => cases ran

@[simp]
theorem runFrom_log (record : Log.Record) (reporter : Reporter) (journal : Journal) :
    (log record).runFrom reporter journal = (.ok (), journal.note record) :=
  rfl

/-- Of all reporters only that which is reported to has a say in what a report does. -/
theorem runUnder_report (sink : Handle) (facts : List Fact) (name : String)
    (reporters : Handle → Reporter) (journal : Journal) :
    (report sink facts name).runUnder reporters journal =
      (report sink facts name).runFrom (reporters sink) journal := by
  have asks (known : Handle → Reporter) :
      (read : Check (Handle → Reporter)).runUnder known journal = (.ok known, journal) := rfl
  unfold report runFrom
  rw [runUnder_bind, runUnder_bind, asks, asks]
  dsimp only
  cases reporters sink <;> rfl

@[simp]
theorem runFrom_report_collecting (sink : Handle) (facts : List Fact) (name : String)
    (journal : Journal) :
    (report sink facts name).runFrom .collecting journal = (.ok (), journal.collect ⟨name, facts⟩) :=
  rfl

@[simp]
theorem runFrom_report_raising (sink : Handle) (facts : List Fact) (name : String)
    (journal : Journal) :
    (report sink facts name).runFrom .raising journal =
      (.error (.unmet facts (Fact.layout facts)),
        journal.note ⟨.debug, Log.reporterLogger, stopMessage name facts⟩) :=
  rfl

end Check

theorem Collector.runFrom_verify_collecting (journal : Journal) :
    Collector.verify.runFrom .collecting journal =
      match journal.failures with
      | [] => (.ok (), journal)
      | first :: rest =>
          (.error (.unmet ((first :: rest).flatMap Failure.facts) (summary (first :: rest))),
            journal) := by
  obtain ⟨failures, records⟩ := journal
  cases failures with
  | nil => rfl
  | cons first rest => rfl

end TypeLaws
