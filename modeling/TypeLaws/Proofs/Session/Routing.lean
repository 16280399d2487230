import TypeLaws.Proofs.Log.Delivery
import TypeLaws.Proofs.Session.Step
import TypeLaws.Sample.System
import TypeLaws.Session.Suite

/-!
Where the records of a suite go: over any run of its steps, each file holds the text that it had and
one line for each record and each handler on the file that was attached to the record's logger, or
above it, at the moment when it was logged.
-/

namespace TypeLaws.Suite

open Log (State Record)

variable {τ : Type} (system : TypeSystem τ)

def Step.names : Step τ → List String
  | .setUp name _ _ => [name]
  | .configure _ _ => [Log.libraryLogger]
  | .tearDown name => [name]
  | .log record => [record.logger]
  | .assert _ _ _ => []
  | .read _ => []
  | .standardError => []

def Step.records : Step τ → List Record
  | .log record => [record]
  | .assert reporter subject made => (assertion system reporter subject made).records
  | _ => []

def after (state : State) (steps : List (Step τ)) : State :=
  steps.foldl (fun state next => (step system state next).2) state

/-- All records of a run, each with the loggers as they were when it was logged. -/
def history (state : State) : List (Step τ) → List State.Moment
  | [] => []
  | next :: rest =>
      state.moments (next.records system) ++ history (step system state next).2 rest

theorem records_of_assertion (reporter : Option Reporter) (subject : Subject τ)
    (made : Assertion.Call τ) :
    ∀ record ∈ (assertion system reporter subject made).records,
      record.logger ∈ Log.libraryLoggers := by
  have composed := Session.assertion_composed system subject made none
  have planned : Session.plan system reporter [(subjectName, subject)]
      (.assert subjectName made none) = some (Session.assertion system subject made none) := by
    simp [Session.plan]
  -- The assertion is the only step of its session, so its journal begins empty.
  obtain ⟨added, records, known⟩ := composed.records (reporter.getD .raising) ⟨[], []⟩
  have logged : (assertion system reporter subject made).records = added := by
    rw [assertion, Session.step, planned]
    dsimp only
    rcases ran : (Session.assertion system subject made none).runFrom (reporter.getD .raising)
      ⟨[], []⟩ with ⟨ending, journal⟩
    rw [ran] at records
    cases ending with
    | ok ending => exact records
    | error stop => exact records
  rw [logged]
  intro record isIn
  rcases known record isIn with same | same
  · rw [same]
    decide
  · rw [same]
    decide

variable {used : List String} {state : State}

theorem setUp_snd (name : String) (file : Text) (verbose : Bool) (state : State) :
    (setUp name file verbose state : Answer τ × State).2 = (state.setUp name file verbose).2 := by
  unfold setUp
  rcases state.setUp name file verbose with ⟨result, reached⟩
  cases result <;> rfl

/-- One step keeps the loggers in order, and files and standard error get its records. -/
theorem step_delivers (sound : state.Sound used) {next : Step τ}
    (orderly : Log.Orderly (used ++ next.names)) :
    State.Sound (used ++ next.names) (step system state next).2 ∧
      State.Delivers state (state.moments (next.records system)) (step system state next).2 := by
  have idle : State.Delivers state [] state := State.Delivers.nothing (Log.Disk.Keeps.refl _) rfl
  have same : used ++ [] = used := List.append_nil used
  cases next with
  | setUp name file verbose =>
      have reached : (step system state (.setUp name file verbose)).2 =
          (state.setUp name file verbose).2 := setUp_snd name file verbose state
      rw [reached]
      exact State.setUp_delivers sound orderly file verbose
  | configure settings env =>
      have unused : State.Sound (used ++ [Log.libraryLogger]) state := by
        refine sound.use fun name isIn begins => ?_
        rw [List.mem_singleton.mp isIn] at begins
        exact absurd begins (by decide)
      change State.Sound (used ++ [Log.libraryLogger]) _ ∧ State.Delivers state [] _
      rw [step]
      cases (Config.make settings env).result with
      | error rejection => exact ⟨unused, idle⟩
      | ok config =>
          dsimp only
          rw [configure]
          cases config.debugLog with
          | none => exact ⟨unused, idle⟩
          | some file =>
              dsimp only
              rw [setUp_snd]
              exact State.setUp_delivers sound orderly file config.verbose
  | tearDown name => exact State.tearDown_delivers sound orderly
  | log record => exact State.log_delivers sound orderly
  | assert reporter subject made =>
      change State.Sound (used ++ []) _ ∧ _
      rw [same]
      exact State.logAll_delivers sound (records_of_assertion system reporter subject made)
  | read file =>
      change State.Sound (used ++ []) _ ∧ _
      rw [same]
      exact ⟨sound, idle⟩
  | standardError =>
      change State.Sound (used ++ []) _ ∧ _
      rw [same]
      exact ⟨sound, idle⟩

theorem run_delivers (sound : state.Sound used) {steps : List (Step τ)}
    (orderly : Log.Orderly (used ++ steps.flatMap Step.names)) :
    State.Sound (used ++ steps.flatMap Step.names) (after system state steps) ∧
      State.Delivers state (history system state steps) (after system state steps) := by
  induction steps generalizing used state with
  | nil =>
      rw [List.flatMap_nil, List.append_nil]
      exact ⟨sound, State.Delivers.nothing (Log.Disk.Keeps.refl _) rfl⟩
  | cons next rest ih =>
      rw [List.flatMap_cons, ← List.append_assoc] at orderly ⊢
      obtain ⟨sound', delivers⟩ := step_delivers system sound orderly.of_append
      obtain ⟨sound'', further⟩ := ih sound' orderly
      exact ⟨sound'', delivers.trans further⟩

/--
Over any run from fresh loggers, a file gets one line for each record and each handler on it that is
attached at that moment to the record's logger or above it; standard error gets such lines for its
handlers, and the bare message of an urgent record that no handler hears.
-/
theorem records_are_routed (disk : Log.Disk) (steps : List (Step τ))
    (orderly : Log.Orderly (steps.flatMap Step.names)) :
    let start : State := { State.initial with disk }
    let reached := after system start steps
    (∀ place, reached.disk.textAt place =
        disk.textAt place ++ State.linesOf place (history system start steps)) ∧
      (∀ place, (disk.read? place).isSome → (reached.disk.read? place).isSome) ∧
      reached.standardError = State.errorsOf (history system start steps) := by
  intro start reached
  have delivers := (run_delivers system (State.sound_initial disk) orderly).2
  exact ⟨delivers.files, delivers.kept, delivers.errors.trans String.empty_append⟩

/-- A logger is heard through the one above it, until that is torn down. -/
theorem records_are_routed_to_parent :
    let steps : List (Step Sample) :=
      [.setUp "suite" "a.log" true, .log ⟨.info, "suite.part", "heard"⟩, .tearDown "suite",
        .log ⟨.warning, "suite.part", "unheard"⟩]
    let reached := after (Sample.system []) State.initial steps
    reached.disk.textAt ["a.log"] = "[T] heard\n" ∧
      reached.standardError = "[T] heard\nunheard\n" := by
  intro steps reached
  have orderly : Log.Orderly (steps.flatMap Step.names) := .of_no_beginning (by decide) (by decide)
  obtain ⟨files, -, errors⟩ := records_are_routed (Sample.system []) .empty steps orderly
  have lines : State.linesOf ["a.log"] (history (Sample.system []) State.initial steps) =
      "[T] heard\n" := by
    decide +kernel
  have shown : State.errorsOf (history (Sample.system []) State.initial steps) =
      "[T] heard\nunheard\n" := by
    decide +kernel
  exact ⟨(files ["a.log"]).trans lines, errors.trans shown⟩

/--
A logger that is made after one below it, with a name that the name of the root begins with, does
not get the records of that one.
-/
theorem late_beginning_of_root_is_overlooked :
    let steps : List (Step Sample) :=
      [.setUp "r.x" "a.log" false, .setUp "r" "b.log" false, .log ⟨.info, "r.x", "m"⟩]
    (∀ name ∈ steps.flatMap Step.names, Log.IsDotted name ∧ name ≠ Log.rootName) ∧
      (after (Sample.system []) State.initial steps).disk.textAt ["b.log"] ≠
        State.linesOf ["b.log"] (history (Sample.system []) State.initial steps) := by
  intro steps
  exact ⟨by decide, by decide +kernel⟩

end TypeLaws.Suite
