import TypeLaws.Proofs.Check.Composition

/-!
What a run of a check adds to its journal. A check that is put together from calls, records and
reports never looks at the journal, so it gives and adds the same from whatever journal it starts;
and a collecting reporter logs one record for each failure, in the same order.
-/

namespace TypeLaws

def Failure.record (failure : Failure) : Log.Record :=
  ⟨.info, Log.reporterLogger, Check.collectMessage failure⟩

namespace Journal

instance : Append Journal where
  append earlier later := ⟨earlier.failures ++ later.failures, earlier.records ++ later.records⟩

@[simp]
theorem append_failures (earlier later : Journal) :
    (earlier ++ later).failures = earlier.failures ++ later.failures :=
  rfl

theorem append_empty (journal : Journal) : journal ++ Journal.empty = journal := by
  obtain ⟨failures, records⟩ := journal
  change (⟨failures ++ [], records ++ []⟩ : Journal) = ⟨failures, records⟩
  rw [List.append_nil, List.append_nil]

theorem append_assoc (first second third : Journal) :
    first ++ second ++ third = first ++ (second ++ third) := by
  change (⟨first.failures ++ second.failures ++ third.failures,
    first.records ++ second.records ++ third.records⟩ : Journal) = _
  rw [List.append_assoc, List.append_assoc]
  rfl

def infoRecords (journal : Journal) : List Log.Record :=
  journal.records.filter (·.level == .info)

@[simp]
theorem infoRecords_collect (journal : Journal) (failure : Failure) :
    (journal.collect failure).infoRecords = journal.infoRecords ++ [failure.record] := by
  simp [infoRecords, collect, Failure.record, List.filter_append]

theorem infoRecords_note {record : Log.Record} (other : record.level ≠ .info)
    (journal : Journal) : (journal.note record).infoRecords = journal.infoRecords := by
  simp [infoRecords, note, List.filter_append, other]

/-- There is one such record for each failure, in the same order. -/
def Accompanied (journal : Journal) : Prop :=
  journal.infoRecords = journal.failures.map Failure.record

end Journal

namespace Check.Composed

variable {α : Type} {sink : Handle} {check : Check α}

/-- From any journal, a run gives what it gives from the empty one, and adds the same. -/
theorem runFrom_eq (composed : Composed sink check) (reporter : Reporter) (journal : Journal) :
    check.runFrom reporter journal =
      ((check.runFrom reporter .empty).1, journal ++ (check.runFrom reporter .empty).2) := by
  induction composed generalizing journal with
  | pure value => rw [runFrom_pure, runFrom_pure, Journal.append_empty]
  | call outcome =>
      cases outcome with
      | ok value => rw [runFrom_call_ok, runFrom_call_ok, Journal.append_empty]
      | error fault => rw [runFrom_call_error, runFrom_call_error, Journal.append_empty]
  | log message =>
      change _ = (Except.ok (), (⟨journal.failures ++ [], _⟩ : Journal))
      rw [List.append_nil]
      rfl
  | report facts name =>
      cases reporter with
      | raising =>
          change _ = (Except.error _, (⟨journal.failures ++ [], _⟩ : Journal))
          rw [List.append_nil]
          rfl
      | collecting => rfl
  | @bind _ _ check next _ _ first later =>
      rcases own : check.runFrom reporter .empty with ⟨result, added⟩
      have ran := first journal
      rw [own] at ran
      cases result with
      | error stop => rw [runFrom_bind_error next ran, runFrom_bind_error next own]
      | ok value =>
          -- Both runs go on, from different journals: each is the run from the empty one.
          rw [runFrom_bind_ok next ran, runFrom_bind_ok next own, later value (journal ++ added),
            later value added, Journal.append_assoc]

theorem accompanied (composed : Composed sink check) {journal : Journal}
    (before : journal.Accompanied) : (check.runFrom .collecting journal).2.Accompanied := by
  induction composed generalizing journal with
  | pure value => exact before
  | call outcome =>
      cases outcome with
      | ok value => exact before
      | error fault => exact before
  | log message => exact (Journal.infoRecords_note Log.Level.noConfusion journal).trans before
  | report facts name =>
      rw [runFrom_report_collecting, Journal.Accompanied, Journal.infoRecords_collect, before,
        Journal.collect_failures, List.map_append]
      rfl
  | @bind _ _ check next _ _ first later =>
      have reached := first before
      rcases ran : check.runFrom .collecting journal with ⟨result, middle⟩
      rw [ran] at reached
      cases result with
      | error stop =>
          rw [runFrom_bind_error next ran]
          exact reached
      | ok value =>
          rw [runFrom_bind_ok next ran]
          exact later value reached

end Check.Composed

end TypeLaws
