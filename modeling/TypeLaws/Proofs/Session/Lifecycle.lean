import TypeLaws.Proofs.Log.Logger
import TypeLaws.Proofs.Session.Routing

/-!
The life of a logger over any run of the steps of suites. A logger gets its handlers from a set-up
that is not refused, and has them until it is torn down; what is done under one name does not touch
the logger of another. A set-up that is refused changes no handlers.
-/

namespace TypeLaws.Suite

open Log (State Handler canonical)

variable {τ : Type} (system : TypeSystem τ)

/-! ### What a step can do to the loggers -/

structure SetUp where
  name : String
  file : Text
  verbose : Bool

/-- The set-up that a step asks for, by hand or by a configuration with a debug log. -/
def Step.setUp? : Step τ → Option SetUp
  | .setUp name file verbose => some ⟨name, file, verbose⟩
  | .configure settings env =>
      match (Config.make settings env).result with
      | .ok config => config.debugLog.map fun file => ⟨Log.libraryLogger, file, config.verbose⟩
      | .error _ => none
  | _ => none

/-- The loggers are as before, but for the one that goes by a name. -/
def Replaces (before : State) (name : String) (logger : Log.Logger) (later : State) : Prop :=
  ∀ other, later.logger other =
    if canonical other = canonical name then logger else before.logger other

inductive Outcome (state : State) (next : Step τ) : Answer τ × State → Prop where
  | idle {answer : Answer τ} {later : State} (asks : next.setUp? = none)
      (stays : ∀ name, next ≠ .tearDown name) (accepted : ∀ fault, answer ≠ .refused fault)
      (same : ∀ name, later.logger name = state.logger name) : Outcome state next (answer, later)
  | tornDown {answer : Answer τ} {later : State} {name : String} (tears : next = .tearDown name)
      (accepted : ∀ fault, answer ≠ .refused fault)
      (replaces : Replaces state name { state.logger name with handlers := [] } later) :
      Outcome state next (answer, later)
  | inUse {made : SetUp} (asks : next.setUp? = some made)
      (busy : (state.logger made.name).handlers ≠ []) :
      Outcome state next (.refused (.inUse made.name), state)
  | closed {made : SetUp} {cause : Log.Disk.Fault} {later : State}
      (asks : next.setUp? = some made) (free : (state.logger made.name).handlers = [])
      (failed : ((Log.Disk.openFile made.file).run.run state.disk).1 = .error cause)
      (replaces : Replaces state made.name ⟨some .debug, []⟩ later) :
      Outcome state next (.refused (.disk cause), later)
  | opened {made : SetUp} {place : Log.Place} {later : State}
      (asks : next.setUp? = some made) (free : (state.logger made.name).handlers = [])
      (opens : ((Log.Disk.openFile made.file).run.run state.disk).1 = .ok place)
      (replaces :
        Replaces state made.name ⟨some .debug, State.handlersFor made.file made.verbose⟩ later) :
      Outcome state next
        (.logger (canonical made.name) Log.Level.debug.number
          (State.handlersFor made.file made.verbose), later)

theorem step_of_setUp? {next : Step τ} {made : SetUp} (asks : next.setUp? = some made)
    (state : State) : step system state next = setUp made.name made.file made.verbose state := by
  cases next with
  | setUp name file verbose =>
      cases asks
      rfl
  | configure settings env =>
      rw [Step.setUp?] at asks
      rw [step]
      cases read : (Config.make settings env).result with
      | error rejection =>
          rw [read] at asks
          cases asks
      | ok config =>
          rw [read] at asks
          obtain ⟨file, isLog, rfl⟩ := Option.map_eq_some_iff.mp asks
          dsimp only
          rw [configure, isLog]
  | tearDown name => cases asks
  | log record => cases asks
  | assert reporter subject made => cases asks
  | read file => cases asks
  | standardError => cases asks

theorem replaces_setLogger (state : State) (name : String) (logger : Log.Logger) :
    Replaces state name logger (state.setLogger name logger) :=
  fun other => State.logger_setLogger name other logger

theorem setUp_outcome {next : Step τ} {made : SetUp} (asks : next.setUp? = some made)
    (state : State) :
    Outcome state next (setUp made.name made.file made.verbose state) := by
  unfold setUp
  by_cases free : (state.logger made.name).handlers = []
  · rcases ran : (Log.Disk.openFile made.file).run.run state.disk with ⟨ending, disk⟩
    have first := replaces_setLogger state made.name ⟨some .debug, []⟩
    cases ending with
    | error cause =>
        rw [State.setUp_of_fault free ran]
        exact .closed asks free (by rw [ran]) first
    | ok place =>
        rw [State.setUp_of_opened free ran]
        dsimp only
        have replaces : Replaces state made.name
            ⟨some .debug, State.handlersFor made.file made.verbose⟩
            (({ state.setLogger made.name ⟨some .debug, []⟩ with disk } : State).setLogger made.name
              ⟨some .debug, State.handlersFor made.file made.verbose⟩) := by
          intro other
          rw [State.logger_setLogger]
          by_cases same : canonical other = canonical made.name
          · rw [if_pos same, if_pos same]
          · rw [if_neg same, if_neg same]
            exact (first other).trans (if_neg same)
        rw [showLogger, replaces, if_pos rfl]
        exact .opened asks free (by rw [ran]) replaces
  · rw [State.setUp_of_inUse free]
    exact .inUse asks free

theorem step_outcome (state : State) (next : Step τ) :
    Outcome state next (step system state next) := by
  cases asks : next.setUp? with
  | some made =>
      rw [step_of_setUp? system asks]
      exact setUp_outcome asks state
  | none =>
      cases next with
      | setUp name file verbose => cases asks
      | configure settings env =>
          have silent := asks
          rw [Step.setUp?] at silent
          rw [step]
          cases made : (Config.make settings env).result with
          | error rejection => apply Outcome.idle asks <;> simp
          | ok config =>
              rw [made] at silent
              have unlogged : config.debugLog = none := Option.map_eq_none_iff.mp silent
              dsimp only
              rw [configure, unlogged]
              apply Outcome.idle asks <;> simp
      | tearDown name =>
          apply Outcome.tornDown rfl
          · simp [showLogger]
          · exact fun other => State.logger_tearDown name other
      | log record =>
          apply Outcome.idle asks
          · simp
          · simp
          · exact State.logger_log record state
      | assert reporter subject made =>
          apply Outcome.idle asks
          · simp
          · simp
          · exact State.logger_logAll _ state
      | read file => apply Outcome.idle asks <;> simp
      | standardError => apply Outcome.idle asks <;> simp

/-! ### Handlers -/

/-- No handlers, a file, or a file and standard error. -/
def IsDressed (handlers : List Handler) : Prop :=
  handlers = [] ∨ ∃ place, handlers = [.file place] ∨ handlers = [.file place, .standardError]

theorem isDressed_handlersFor (file : Text) (verbose : Bool) :
    IsDressed (State.handlersFor file verbose) := by
  right
  cases verbose with
  | false => exact ⟨_, .inl rfl⟩
  | true => exact ⟨_, .inr rfl⟩

theorem Replaces.isDressed {state later : State} {name : String} {logger : Log.Logger}
    (replaces : Replaces state name logger later) (dressed : IsDressed logger.handlers)
    (before : ∀ name, IsDressed (state.logger name).handlers) :
    ∀ name, IsDressed (later.logger name).handlers := by
  intro other
  rw [replaces]
  split
  · exact dressed
  · exact before other

theorem isDressed_step {state : State} (before : ∀ name, IsDressed (state.logger name).handlers)
    (next : Step τ) : ∀ name, IsDressed ((step system state next).2.logger name).handlers := by
  have outcome := step_outcome system state next
  generalize step system state next = reached at outcome ⊢
  cases outcome with
  | idle asks stays accepted same =>
      intro name
      rw [same]
      exact before name
  | tornDown tears accepted replaces => exact replaces.isDressed (.inl rfl) before
  | inUse asks busy => exact before
  | closed asks free failed replaces => exact replaces.isDressed (.inl rfl) before
  | opened asks free opens replaces => exact replaces.isDressed (isDressed_handlersFor _ _) before

theorem isDressed_after {state : State} (before : ∀ name, IsDressed (state.logger name).handlers)
    (steps : List (Step τ)) : ∀ name, IsDressed ((after system state steps).logger name).handlers := by
  induction steps generalizing state with
  | nil => exact before
  | cons next rest ih => exact ih (isDressed_step system before next)

/-! ### From set-up to tear-down -/

def Step.TearsDown (name : String) (next : Step τ) : Prop :=
  ∃ other, next = .tearDown other ∧ canonical other = canonical name

def Step.SetsUp (state : State) (name : String) (next : Step τ) : Prop :=
  (∃ made, next.setUp? = some made ∧ canonical made.name = canonical name) ∧
    ∀ fault, (step system state next).1 ≠ .refused fault

/-- A logger has been set up in a run and was not torn down after that. -/
def WasSetUp (start : State) (steps : List (Step τ)) (name : String) : Prop :=
  ∃ before next later, steps = before ++ next :: later ∧
    next.SetsUp system (after system start before) name ∧ ∀ other ∈ later, ¬other.TearsDown name

theorem wasSetUp_cons {start : State} {next : Step τ} {rest : List (Step τ)} {name : String} :
    WasSetUp system start (next :: rest) name ↔
      next.SetsUp system start name ∧ (∀ other ∈ rest, ¬other.TearsDown name) ∨
        WasSetUp system (step system start next).2 rest name := by
  constructor
  · intro ⟨before, made, later, split, sets, stays⟩
    cases before with
    | nil =>
        cases split
        exact .inl ⟨sets, stays⟩
    | cons first before =>
        cases split
        exact .inr ⟨before, made, later, rfl, sets, stays⟩
  · intro either
    rcases either with ⟨sets, stays⟩ | ⟨before, made, later, split, sets, stays⟩
    · exact ⟨[], next, rest, rfl, sets, stays⟩
    · exact ⟨next :: before, made, later, by rw [split, List.cons_append], sets, stays⟩

theorem not_tearsDown_of_setUp? {next : Step τ} {made : SetUp} (asks : next.setUp? = some made)
    (name : String) : ¬next.TearsDown name := by
  intro ⟨other, tears, _⟩
  rw [tears] at asks
  cases asks

/-- A set-up gives its logger handlers, a tear-down takes them, and nothing else does either. -/
theorem handlers_step (state : State) (next : Step τ) (name : String) :
    ((step system state next).2.logger name).handlers ≠ [] ↔
      next.SetsUp system state name ∨
        (state.logger name).handlers ≠ [] ∧ ¬next.TearsDown name := by
  have outcome := step_outcome system state next
  unfold Step.SetsUp
  generalize step system state next = reached at outcome ⊢
  cases outcome with
  | idle asks stays accepted same =>
      have noTear : ¬next.TearsDown name := fun ⟨other, tears, _⟩ => stays other tears
      simp [asks, same, noTear]
  | @tornDown answer later torn tears accepted replaces =>
      subst tears
      have noSetUp : (Step.tearDown torn : Step τ).setUp? = none := rfl
      simp only [noSetUp, reduceCtorEq, false_and, exists_false, false_or]
      rw [replaces]
      by_cases same : canonical name = canonical torn
      · have torn' : (Step.tearDown torn : Step τ).TearsDown name := ⟨torn, rfl, same.symm⟩
        simp [same, torn']
      · have noTear : ¬(Step.tearDown torn : Step τ).TearsDown name := by
          intro ⟨other, tears, sameOther⟩
          cases tears
          exact same sameOther.symm
        simp [same, noTear]
  | inUse asks busy =>
      simp [not_tearsDown_of_setUp? asks name]
  | @closed made cause later asks free failed replaces =>
      rw [replaces]
      by_cases same : canonical name = canonical made.name
      · simp [same, State.logger_congr same, free]
      · simp [same, not_tearsDown_of_setUp? asks name]
  | @opened made place later asks free opens replaces =>
      rw [replaces]
      by_cases same : canonical name = canonical made.name
      · simp [asks, same, State.handlersFor]
      · simp [asks, same, Ne.symm same, not_tearsDown_of_setUp? asks name]

theorem handlers_after (start : State) (steps : List (Step τ)) (name : String) :
    ((after system start steps).logger name).handlers ≠ [] ↔
      WasSetUp system start steps name ∨
        (start.logger name).handlers ≠ [] ∧ ∀ next ∈ steps, ¬next.TearsDown name := by
  induction steps generalizing start with
  | nil => simp [after, WasSetUp]
  | cons next rest ih =>
      have later := ih (step system start next).2
      rw [handlers_step] at later
      rw [wasSetUp_cons, List.forall_mem_cons]
      refine Iff.trans later ?_
      tauto

/-! ### Set-ups that are refused and set-ups that are not -/

theorem step_of_busy {state : State} {next : Step τ} {made : SetUp}
    (asks : next.setUp? = some made) (busy : (state.logger made.name).handlers ≠ []) :
    step system state next = (.refused (.inUse made.name), state) := by
  rw [step_of_setUp? system asks, setUp, State.setUp_of_inUse busy]

theorem step_of_free {state : State} {next : Step τ} {made : SetUp} {place : Log.Place}
    (asks : next.setUp? = some made) (free : (state.logger made.name).handlers = [])
    (opens : ((Log.Disk.openFile made.file).run.run state.disk).1 = .ok place) :
    let outcome := step system state next
    (∃ level handlers, outcome.1 = .logger (canonical made.name) level handlers) ∧
      (outcome.2.logger made.name).handlers =
        if made.verbose then [.file place, .standardError] else [.file place] := by
  obtain ⟨isNamed, -⟩ := (Log.Disk.openFile_keeps made.file state.disk).2 place opens
  rcases ran : (Log.Disk.openFile made.file).run.run state.disk with ⟨ending, disk⟩
  rw [ran] at opens
  cases opens
  intro outcome
  have reached : outcome = _ := step_of_setUp? system asks state
  rw [setUp, State.setUp_of_opened free ran] at reached
  rw [reached]
  constructor
  · exact ⟨_, _, rfl⟩
  · rw [State.logger_setLogger, if_pos rfl, isNamed]
    cases made.verbose <;> rfl

theorem logger_step_of_others {state : State} {next : Step τ} {name : String}
    (asks : ∀ made, next.setUp? = some made → canonical made.name ≠ canonical name)
    (stays : ¬next.TearsDown name) :
    (step system state next).2.logger name = state.logger name := by
  have outcome := step_outcome system state next
  generalize step system state next = reached at outcome ⊢
  cases outcome with
  | idle noAsks noTear accepted same => exact same name
  | tornDown tears accepted replaces =>
      rw [replaces, if_neg]
      exact fun same => stays ⟨_, tears, same.symm⟩
  | inUse asked busy => rfl
  | closed asked free failed replaces => rw [replaces, if_neg (Ne.symm (asks _ asked))]
  | opened asked free opens replaces => rw [replaces, if_neg (Ne.symm (asks _ asked))]

theorem handlers_initial (disk : Log.Disk) (name : String) :
    (({ State.initial with disk } : State).logger name).handlers = [] := by
  have silent : ∀ entry ∈ State.initial.loggers, entry.2.handlers = [] := by decide
  rw [State.logger]
  cases found : State.initial.loggers.lookup (canonical name) with
  | none => rfl
  | some logger => exact silent _ (Rows.mem_of_lookup found)

/--
In every state that a run reaches, a logger has a file, a file and standard error, or nothing. It has
nothing just if it was never set up or has been torn down since. Only then can it be set up, and it
gets standard error if that is asked for; otherwise the set-up is refused. Tearing down leaves
nothing, and no step changes a logger under another name than its own.
-/
theorem loggers_live_from_set_up_to_tear_down (disk : Log.Disk) (steps : List (Step τ)) :
    let start : State := { State.initial with disk }
    let reached := after system start steps
    (∀ name, IsDressed (reached.logger name).handlers) ∧
      (∀ name, (reached.logger name).handlers = [] ↔ ¬WasSetUp system start steps name) ∧
      (∀ (next : Step τ) (made : SetUp), next.setUp? = some made →
        let outcome := step system reached next
        ((reached.logger made.name).handlers = [] → ∀ place,
          ((Log.Disk.openFile made.file).run.run reached.disk).1 = .ok place →
            (∃ level handlers, outcome.1 = .logger (canonical made.name) level handlers) ∧
            (outcome.2.logger made.name).handlers =
              if made.verbose then [.file place, .standardError] else [.file place]) ∧
        ((reached.logger made.name).handlers ≠ [] →
          outcome = (.refused (.inUse made.name), reached))) ∧
      (∀ name, ((reached.tearDown name).logger name).handlers = []) ∧
      (∀ (next : Step τ) (name : String),
        (∀ made, next.setUp? = some made → canonical made.name ≠ canonical name) →
        ¬next.TearsDown name → (step system reached next).2.logger name = reached.logger name) := by
  intro start reached
  have silent : ∀ name, (start.logger name).handlers = [] := handlers_initial disk
  refine ⟨?_, ?_, ?_, ?_, ?_⟩
  · apply isDressed_after
    exact fun name => .inl (silent name)
  · intro name
    have whole := handlers_after system start steps name
    rw [silent] at whole
    tauto
  · intro next made asks
    constructor
    · intro free place opens
      exact step_of_free system asks free opens
    · exact step_of_busy system asks
  · intro name
    rw [State.logger_tearDown, if_pos rfl]
  · intro next name
    exact logger_step_of_others system

/-- A logger that has been torn down can be set up again, and one that is in use cannot. -/
theorem logger_lives_again :
    let system := Sample.system []
    let first : Step Sample := .setUp "a" "x.log" true
    let again : Step Sample := .setUp "a" "x.log" false
    let used := after system State.initial [first]
    let torn := after system State.initial [first, .tearDown "a"]
    (used.logger "a").handlers = [.file ["x.log"], .standardError] ∧
      step system used again = (.refused (.inUse "a"), used) ∧
      ((step system torn again).2.logger "a").handlers = [.file ["x.log"]] := by
  intro system first again used torn
  have dressed : (used.logger "a").handlers = [.file ["x.log"], .standardError] := by decide +kernel
  have busy := ((loggers_live_from_set_up_to_tear_down system .empty [first]).2.2.1
    again ⟨"a", "x.log", false⟩ rfl).2
  have free := ((loggers_live_from_set_up_to_tear_down system .empty [first, .tearDown "a"]).2.2.1
    again ⟨"a", "x.log", false⟩ rfl).1
  refine ⟨dressed, busy ?_, (free ?_ ["x.log"] ?_).2⟩
  · intro empty
    exact absurd (dressed.symm.trans empty) (List.cons_ne_nil _ _)
  · decide +kernel
  · decide +kernel

/-- A set-up that is refused changes no handlers. -/
theorem refused_set_up_keeps_handlers {state : State} {next : Step τ} {fault : Log.Fault}
    (refused : (step system state next).1 = .refused fault) :
    let later := (step system state next).2
    (∀ name, (later.logger name).handlers = (state.logger name).handlers) ∧
      ∃ made, next.setUp? = some made ∧
        (∀ name, canonical name ≠ canonical made.name →
          later.logger name = state.logger name) ∧
        ((fault = .inUse made.name ∧ (state.logger made.name).handlers ≠ [] ∧ later = state) ∨
          ∃ cause, fault = .disk cause ∧ (state.logger made.name).handlers = [] ∧
            ((Log.Disk.openFile made.file).run.run state.disk).1 = .error cause ∧
            (later.logger made.name).level = some .debug) := by
  have outcome := step_outcome system state next
  generalize step system state next = ran at outcome refused ⊢
  cases outcome with
  | idle asks stays accepted same => exact absurd refused (accepted fault)
  | tornDown tears accepted replaces => exact absurd refused (accepted fault)
  | inUse asks busy =>
      cases refused
      exact ⟨fun _ => rfl, _, asks, fun _ _ => rfl, .inl ⟨rfl, busy, rfl⟩⟩
  | @closed made cause later asks free failed replaces =>
      cases refused
      refine ⟨?_, made, asks, ?_, .inr ⟨cause, rfl, free, failed, ?_⟩⟩
      · intro name
        rw [replaces]
        by_cases same : canonical name = canonical made.name
        · rw [if_pos same, State.logger_congr same, free]
        · rw [if_neg same]
      · intro name other
        rw [replaces, if_neg other]
      · rw [replaces, if_pos rfl]
  | opened asks free opens replaces => cases refused

/-- A set-up that is refused since the logger is in use, and one whose file lies below another file. -/
theorem refused_set_up_keeps_handlers_of_used_logger :
    let system := Sample.system []
    let used := after system State.initial [(.setUp "a" "x.log" false : Step Sample)]
    let later := (step system used (.setUp "a" "y.log" true : Step Sample)).2
    let other := (step system used (.setUp "b" "x.log/y.log" true : Step Sample)).2
    (later.logger "a").handlers = [.file ["x.log"]] ∧ (other.logger "b").handlers = [] := by
  intro system used later other
  have busy : (step system used (.setUp "a" "y.log" true : Step Sample)).1 =
      .refused (.inUse "a") := by rfl
  have closed : (step system used (.setUp "b" "x.log/y.log" true : Step Sample)).1 =
      .refused (.disk (.exists ["x.log"])) := by rfl
  have kept := (refused_set_up_keeps_handlers system busy).1 "a"
  have free := (refused_set_up_keeps_handlers system closed).1 "b"
  exact ⟨kept.trans (by decide +kernel), free.trans (by decide +kernel)⟩

/-- A name with the null character, and a file below another file: the level has been set by then. -/
theorem refused_set_up_leaves_level :
    let system := Sample.system []
    let used := after system State.initial [(.setUp "a" "x.log" false : Step Sample)]
    let unnamed : Step Sample := .setUp "s" "a\x00/b.log" false
    let below : Step Sample := .setUp "b" "x.log/y.log" false
    (State.initial.logger "s").level = none ∧
      (step system State.initial unnamed).1 = .refused (.disk .nullCharacter) ∧
      ((step system State.initial unnamed).2.logger "s").level = some .debug ∧
      (used.logger "b").level = none ∧
      (step system used below).1 = .refused (.disk (.exists ["x.log"])) ∧
      ((step system used below).2.logger "b").level = some .debug := by
  intro system used unnamed below
  exact ⟨by decide +kernel, by rfl, by decide +kernel, by decide +kernel, by rfl, by decide +kernel⟩

end TypeLaws.Suite
