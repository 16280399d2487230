import Mathlib.Data.List.DropRight
import TypeLaws.Proofs.Report.JUnit
import TypeLaws.Proofs.Session.Step

/-!
The collector of a session as a record of its run. It keeps what the steps report, in order, until
it is cleared; a log record goes with each report; and the steps that ask it show nothing but what
it keeps.
-/

namespace TypeLaws

/-! ### The summary -/

theorem Collector.intercalate_blocks (head : Text) (number : Nat) (failures : List Failure) :
    ("\n" : Text).intercalate (head :: blocks number failures) =
      head ++ (failures.zipIdx number).flatMap fun row =>
        Text.ofString ("\n\n" ++ toString row.2 ++ ". " ++ row.1.name ++ "\n") ++ row.1.render := by
  induction failures generalizing head number with
  | nil => rw [blocks, List.intercalate_singleton, List.zipIdx_nil, List.flatMap_nil, List.append_nil]
  | cons failure rest ih =>
      rw [blocks, List.intercalate_cons_cons, ih, List.zipIdx_cons, List.flatMap_cons, block]
      have breaks : Text.ofString "\n\n" = Text.ofString "\n" ++ Text.ofString "\n" := rfl
      simp only [Text.ofString_append, breaks, List.append_assoc]
      rfl

theorem Collector.summary_eq (failures : List Failure) :
    summary failures =
      Text.ofString (toString failures.length ++ " type assertion "
        ++ (if failures.length = 1 then "failure" else "failures"))
        ++ (failures.zipIdx 1).flatMap fun row =>
          Text.ofString ("\n\n" ++ toString row.2 ++ ". " ++ row.1.name ++ "\n") ++ row.1.render :=
  intercalate_blocks _ 1 failures

namespace Session

variable {τ : Type} (system : TypeSystem τ)

/-! ### Asking the collector -/

section Asking

variable (state : State τ)

theorem step_of_looks {next : Step τ} {check : Check (Result τ)}
    {result : Except Stop (Result τ)} {records : List Log.Record}
    (planned : plan system (some .collecting) state.subjects next = some (only check))
    (looked : check.runFrom .collecting ⟨state.failures, []⟩ =
      (result, ⟨state.failures, records⟩)) :
    step system (some .collecting) state next =
      (⟨match result with
        | .ok given => .result given
        | .error stop => .stopped stop, [], records⟩, state) := by
  cases result with
  | ok given =>
      have ran : (only check).runFrom .collecting ⟨state.failures, []⟩ =
          (.ok ⟨.result given, []⟩, ⟨state.failures, records⟩) :=
        Check.runFrom_bind_ok _ looked
      rw [step_of_plan system state planned ran, List.drop_length]
      rfl
  | error stop =>
      have ran : (only check).runFrom .collecting ⟨state.failures, []⟩ =
          (.error stop, ⟨state.failures, records⟩) :=
        Check.runFrom_bind_error _ looked
      rw [step_of_plan system state planned ran, List.drop_length]
      rfl

theorem step_clear :
    step system (some .collecting) state .clear =
      (⟨.result .nothing, [], []⟩, ⟨state.subjects, []⟩) := by
  have planned : plan system (some .collecting) state.subjects .clear =
      some (only do Collector.clear; return .nothing) := rfl
  have ran : (only do Collector.clear; return (.nothing : Result τ)).runFrom .collecting
      ⟨state.failures, []⟩ = (.ok ⟨.result .nothing, []⟩, ⟨[], []⟩) := rfl
  rw [step_of_plan system state planned ran, List.drop_nil]
  rfl

theorem step_hasFailures :
    step system (some .collecting) state .hasFailures =
      (⟨.result (.truth !state.failures.isEmpty), [], []⟩, state) := by
  have looked : (do return .truth (← Collector.hasFailures) : Check (Result τ)).runFrom
      .collecting ⟨state.failures, []⟩ =
        (.ok (.truth !state.failures.isEmpty), ⟨state.failures, []⟩) := rfl
  exact step_of_looks system state rfl looked

theorem step_failures :
    step system (some .collecting) state .failures =
      (⟨.result (.listing (state.failures.map fun failure => (failure.name, failure.headline))),
        [], []⟩, state) := by
  have looked : (do return .listing ((← Collector.failures).map fun failure =>
      (failure.name, failure.headline)) : Check (Result τ)).runFrom .collecting
        ⟨state.failures, []⟩ =
          (.ok (.listing (state.failures.map fun failure => (failure.name, failure.headline))),
            ⟨state.failures, []⟩) := rfl
  exact step_of_looks system state rfl looked

theorem step_verify :
    step system (some .collecting) state .verify =
      (⟨if state.failures.isEmpty then .result .nothing
        else .stopped (.unmet (state.failures.flatMap Failure.facts)
          (Collector.summary state.failures)), [], []⟩, state) := by
  have verified := Collector.runFrom_verify_collecting ⟨state.failures, []⟩
  cases failures : state.failures with
  | nil =>
      rw [failures] at verified
      have looked : (do Collector.verify; return .nothing : Check (Result τ)).runFrom .collecting
          ⟨state.failures, []⟩ = (.ok .nothing, ⟨state.failures, []⟩) := by
        rw [failures]
        exact Check.runFrom_bind_ok _ verified
      exact step_of_looks system state rfl looked
  | cons first rest =>
      rw [failures] at verified
      have looked : (do Collector.verify; return .nothing : Check (Result τ)).runFrom .collecting
          ⟨state.failures, []⟩ =
            (.error (.unmet ((first :: rest).flatMap Failure.facts)
              (Collector.summary (first :: rest))), ⟨state.failures, []⟩) := by
        rw [failures]
        exact Check.runFrom_bind_error _ verified
      exact step_of_looks system state rfl looked

theorem step_write (suite : Text) (target : String) :
    step system (some .collecting) state (.write suite target) =
      (match JUnit.write? suite (state.failures.map Failure.case) with
        | none => ⟨.stopped .unwritable, [], []⟩
        | some text =>
            ⟨.result (.text text), [],
              [⟨.debug, Log.exportLogger, JUnit.writtenMessage state.failures.length target⟩]⟩,
        state) := by
  have wrote := Collector.runFrom_writeJUnit suite target ⟨state.failures, []⟩
  cases written : JUnit.write? suite (state.failures.map Failure.case) with
  | none =>
      rw [written] at wrote
      have looked : (do return .text (← Collector.writeJUnit suite target) :
          Check (Result τ)).runFrom .collecting ⟨state.failures, []⟩ =
            (.error .unwritable, ⟨state.failures, []⟩) :=
        Check.runFrom_bind_error _ wrote
      exact step_of_looks system state rfl looked
  | some text =>
      rw [written] at wrote
      have looked : (do return .text (← Collector.writeJUnit suite target) :
          Check (Result τ)).runFrom .collecting ⟨state.failures, []⟩ =
            (.ok (.text text), ⟨state.failures,
              [⟨.debug, Log.exportLogger, JUnit.writtenMessage state.failures.length target⟩]⟩) :=
        Check.runFrom_bind_ok _ wrote
      exact step_of_looks system state rfl looked

/-- A step that asks the collector reports nothing, and only clearing changes what is recorded. -/
theorem step_of_asks {next : Step τ} (asks : next.asksCollector = true) :
    ∃ answer records, records.filter (·.level == .info) = [] ∧
      step system (some .collecting) state next =
        (⟨answer, [], records⟩,
          ⟨state.subjects, if next.isClear then [] else state.failures⟩) := by
  cases next with
  | verify => exact ⟨_, _, rfl, step_verify system state⟩
  | clear => exact ⟨_, _, rfl, step_clear system state⟩
  | hasFailures => exact ⟨_, _, rfl, step_hasFailures system state⟩
  | failures => exact ⟨_, _, rfl, step_failures system state⟩
  | write suite target =>
      have wrote := step_write system state suite target
      cases written : JUnit.write? suite (state.failures.map Failure.case) with
      | none =>
          rw [written] at wrote
          exact ⟨_, _, rfl, wrote⟩
      | some text =>
          rw [written] at wrote
          exact ⟨_, _, rfl, wrote⟩
  | create name subject => cases asks
  | assert on call keep => cases asks
  | describe on => cases asks
  | report facts name => cases asks

end Asking

theorem step_report (state : State τ) (facts : List Fact) (name : String) :
    step system (some .collecting) state (.report facts name) =
      (⟨.result .nothing, [⟨name, facts⟩], [Failure.record ⟨name, facts⟩]⟩,
        ⟨state.subjects, state.failures ++ [⟨name, facts⟩]⟩) := by
  have planned : plan system (some .collecting) state.subjects (.report facts name) =
      some (only do Check.report .ofSession facts name; return .nothing) := rfl
  have ran :
      (only do Check.report .ofSession facts name; return (.nothing : Result τ)).runFrom
        .collecting ⟨state.failures, []⟩ = (.ok ⟨.result .nothing, []⟩,
        ⟨state.failures ++ [⟨name, facts⟩], [Failure.record ⟨name, facts⟩]⟩) := rfl
  rw [step_of_plan system state planned ran, List.drop_left]
  rfl

/-! ### Any step -/

section Any

variable (state : State τ) (next : Step τ)

theorem isClear_of_acts {next : Step τ} (acts : next.asksCollector = false) :
    next.isClear = false := by
  cases next with
  | clear => cases acts
  | _ => rfl

theorem step_failures_eq :
    (step system (some .collecting) state next).2.failures =
      if next.isClear then []
      else state.failures ++ (step system (some .collecting) state next).1.reported := by
  cases asks : next.asksCollector with
  | false =>
      obtain ⟨made, -, stepped⟩ := step_of_acts system state asks
      rw [stepped, isClear_of_acts asks]
      rfl
  | true =>
      obtain ⟨answer, records, -, stepped⟩ := step_of_asks system state asks
      rw [stepped]
      dsimp only
      rw [List.append_nil]

theorem step_reported_eq :
    (step system (some .collecting) state next).1.reported =
      (alone system state next).reported := by
  cases asks : next.asksCollector with
  | false =>
      obtain ⟨made, -, stepped⟩ := step_of_acts system state asks
      rw [stepped]
  | true =>
      obtain ⟨answer, records, -, stepped⟩ := step_of_asks system state asks
      obtain ⟨answer', records', -, stepped'⟩ :=
        step_of_asks system ⟨next.own state.subjects, []⟩ asks
      rw [stepped, alone, stepped']

theorem step_records_eq :
    (step system (some .collecting) state next).1.records.filter (·.level == .info) =
      (step system (some .collecting) state next).1.reported.map Failure.record := by
  cases asks : next.asksCollector with
  | false =>
      obtain ⟨made, -, stepped⟩ := step_of_acts system state asks
      rw [stepped]
      exact alone_accompanied system state asks
  | true =>
      obtain ⟨answer, records, none, stepped⟩ := step_of_asks system state asks
      rw [stepped]
      exact none

theorem step_subjects_eq :
    ∃ made, (made.map Prod.fst).Sublist next.keeps ∧
      (step system (some .collecting) state next).2.subjects = made ++ state.subjects := by
  cases asks : next.asksCollector with
  | false =>
      obtain ⟨made, names, stepped⟩ := step_of_acts system state asks
      exact ⟨made, names, congrArg (·.2.subjects) stepped⟩
  | true =>
      obtain ⟨answer, records, -, stepped⟩ := step_of_asks system state asks
      exact ⟨[], List.nil_sublist _, congrArg (·.2.subjects) stepped⟩

end Any

/-! ### Runs -/

def after (state : State τ) (steps : List (Step τ)) : State τ :=
  steps.foldl (fun state next => (step system (some .collecting) state next).2) state

def history (steps : List (Step τ)) : List (Step τ × Response τ) :=
  steps.zip (run system (some .collecting) steps)

theorem length_runFrom (state : State τ) (steps : List (Step τ)) :
    (runFrom system (some .collecting) state steps).length = steps.length := by
  induction steps generalizing state with
  | nil => rfl
  | cons next rest ih =>
      rw [runFrom]
      exact congrArg Nat.succ (ih _)

theorem runFrom_concat (state : State τ) (steps : List (Step τ)) (last : Step τ) :
    runFrom system (some .collecting) state (steps ++ [last]) =
      runFrom system (some .collecting) state steps ++
        [(step system (some .collecting) (after system state steps) last).1] := by
  induction steps generalizing state with
  | nil => rfl
  | cons next rest ih =>
      change (step system (some .collecting) state next).1 :: runFrom _ _ _ (rest ++ [last]) = _
      rw [ih]
      rfl

theorem after_concat (state : State τ) (steps : List (Step τ)) (last : Step τ) :
    after system state (steps ++ [last]) =
      (step system (some .collecting) (after system state steps) last).2 := by
  rw [after, List.foldl_concat]
  rfl

theorem history_concat (steps : List (Step τ)) (last : Step τ) :
    history system (steps ++ [last]) =
      history system steps ++
        [(last, (step system (some .collecting) (after system .initial steps) last).1)] := by
  rw [history, run, runFrom_concat, List.zip_append (length_runFrom system _ steps).symm]
  rfl

theorem failures_of_run (steps : List (Step τ)) :
    (after system .initial steps).failures =
      ((history system steps).rtakeWhile fun row => !row.1.isClear).flatMap (·.2.reported) := by
  -- From the end of the run, where a clearing cuts off all that was before.
  induction steps using List.reverseRecOn with
  | nil => rfl
  | append_singleton steps last ih =>
      rw [after_concat, step_failures_eq, history_concat, List.rtakeWhile_concat]
      cases last.isClear with
      | true => rfl
      | false =>
          simp only [Bool.not_false, if_true, Bool.false_eq_true, if_false]
          rw [ih, List.flatMap_append, List.flatMap_singleton]

theorem records_of_run (steps : List (Step τ)) :
    (history system steps).map (fun row => row.2.records.filter (·.level == .info)) =
      (history system steps).map fun row => row.2.reported.map Failure.record := by
  induction steps using List.reverseRecOn with
  | nil => rfl
  | append_singleton steps last ih =>
      rw [history_concat, List.map_append, List.map_append, ih]
      simp only [List.map_cons, List.map_nil, step_records_eq]

/--
The collector of a session is an exact record of its run, at every point of it. It keeps what the
steps reported since it was last cleared, in their order, and one log record goes with each report.
What a step reports depends on the subject that it is about, and on nothing that was recorded or
done to other subjects, for no step changes a subject that there is. Verifying fails just when
something is recorded, and its facts and its text are those of all that is; the other questions show
the same row.
-/
theorem collector_is_exact_record (steps : List (Step τ)) :
    let collecting := step system (some .collecting)
    let state := after system .initial steps
    let rows := history system steps
    state.failures = (rows.rtakeWhile fun row => !row.1.isClear).flatMap (·.2.reported) ∧
      (rows.map fun row => row.2.records.filter (·.level == .info)) =
        (rows.map fun row => row.2.reported.map fun failure =>
          ⟨.info, Log.reporterLogger, "Recorded failure from "
            ++ (if failure.name.isEmpty then "assertion" else failure.name) ++ ": "
            ++ failure.headline⟩) ∧
      (∀ next,
        (collecting state next).1.reported =
            (collecting ⟨next.own state.subjects, []⟩ next).1.reported ∧
          ∃ made, (made.map Prod.fst).Sublist next.keeps ∧
            (collecting state next).2.subjects = made ++ state.subjects) ∧
      (∀ facts name,
        collecting state (.report facts name) =
          (⟨.result .nothing, [⟨name, facts⟩], [Failure.record ⟨name, facts⟩]⟩,
            ⟨state.subjects, state.failures ++ [⟨name, facts⟩]⟩)) ∧
      collecting state .verify =
        (⟨if state.failures.isEmpty then .result .nothing
          else .stopped (.unmet (state.failures.flatMap Failure.facts)
            (Text.ofString (toString state.failures.length ++ " type assertion "
              ++ (if state.failures.length = 1 then "failure" else "failures"))
              ++ (state.failures.zipIdx 1).flatMap fun row =>
                Text.ofString ("\n\n" ++ toString row.2 ++ ". " ++ row.1.name ++ "\n") ++ row.1.render)),
          [], []⟩, state) ∧
      collecting state .hasFailures =
        (⟨.result (.truth !state.failures.isEmpty), [], []⟩, state) ∧
      collecting state .failures =
        (⟨.result (.listing (state.failures.map fun failure => (failure.name, failure.headline))),
          [], []⟩, state) ∧
      (∀ suite target,
        collecting state (.write suite target) =
          (match JUnit.write? suite (state.failures.map Failure.case) with
            | none => ⟨.stopped .unwritable, [], []⟩
            | some text =>
                ⟨.result (.text text), [],
                  [⟨.debug, Log.exportLogger,
                    JUnit.writtenMessage state.failures.length target⟩]⟩,
            state)) ∧
      collecting state .clear = (⟨.result .nothing, [], []⟩, ⟨state.subjects, []⟩) := by
  intro collecting state rows
  refine ⟨failures_of_run system steps, records_of_run system steps, ?_, ?_, ?_,
    step_hasFailures system state, step_failures system state, step_write system state,
    step_clear system state⟩
  · intro next
    exact ⟨step_reported_eq system state next, step_subjects_eq system state next⟩
  · intro facts name
    exact step_report system state facts name
  · rw [← Collector.summary_eq]
    exact step_verify system state

end Session

end TypeLaws
