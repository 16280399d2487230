import TypeLaws.Proofs.Session.Routing

/-!
Suites side by side, each with a logger name and a file of its own. What is logged through the logger
of one suite goes to its file while it is set up. It goes to the file of another suite as well just
when that one is set up and stands above it, so suites are kept apart if no name goes on from
another one.
-/

namespace TypeLaws.Suite

open Log (State Record Handler isAbove)

variable {τ : Type} (system : TypeSystem τ)

/-- The logger name and the file of each suite, all of them distinct. -/
structure Apart (suites : List (String × Text)) : Prop where
  dotted : ∀ suite ∈ suites, Log.IsDotted suite.1
  names : (suites.map Prod.fst).Nodup
  files : (suites.map fun suite => Log.Disk.placeOf suite.2).Nodup

def Step.IsOf (suites : List (String × Text)) : Step τ → Prop
  | .setUp name file _ => (name, file) ∈ suites
  | .tearDown name => ∃ file, (name, file) ∈ suites
  | .log record => ∃ file, (record.logger, file) ∈ suites
  | _ => False

/-- Each logger has the handlers of a set-up by its suite, or none. -/
def Assigned (suites : List (String × Text)) (state : State) : Prop :=
  ∀ entry ∈ state.loggers, entry.2.handlers = [] ∨
    ∃ file verbose, (entry.1, file) ∈ suites ∧ entry.2.handlers = State.handlersFor file verbose

def IsSetUp (state : State) (name : String) (file : Text) : Prop :=
  .file (Log.Disk.placeOf file) ∈ (state.logger name).handlers

instance (state : State) (name : String) (file : Text) : Decidable (IsSetUp state name file) :=
  inferInstanceAs (Decidable (_ ∈ _))

variable {suites : List (String × Text)} {used : List String} {state : State} {name : String}

theorem Assigned.touch (assigned : Assigned suites state) (dotted : Log.IsDotted name) :
    Assigned suites (state.touch name) := by
  by_cases made : name ∈ state.names
  · rwa [State.touch_of_mem dotted made]
  · rw [State.touch_of_not_mem dotted made]
    intro entry isIn
    rcases List.mem_append.mp isIn with earlier | isLast
    · exact assigned entry earlier
    · rw [List.mem_singleton.mp isLast]
      exact .inl rfl

theorem Assigned.setLogger (assigned : Assigned suites state) (dotted : Log.IsDotted name)
    (made : name ∈ state.names) {logger : Log.Logger}
    (own : logger.handlers = [] ∨ ∃ file verbose, (name, file) ∈ suites ∧
      logger.handlers = State.handlersFor file verbose) :
    Assigned suites (state.setLogger name logger) := by
  intro entry isIn
  rcases State.mem_loggers_setLogger dotted made isIn with rfl | ⟨-, before⟩
  · exact own
  · exact assigned entry before

/-- A step of a suite attaches handlers to its own logger only. -/
theorem step_assigned (assigned : Assigned suites state) {next : Step τ} (isOf : next.IsOf suites)
    (dotted : ∀ name ∈ next.names, Log.IsDotted name) :
    Assigned suites (step system state next).2 := by
  cases next with
  | setUp name file verbose =>
      have isDotted := dotted name List.mem_cons_self
      have made : name ∈ (state.touch name).names := State.mem_names_touch isDotted
      have reached : (step system state (.setUp name file verbose)).2 =
          ((state.touch name).setUp name file verbose).2 := by
        rw [State.setUp_touch isDotted]
        exact setUp_snd name file verbose state
      rw [reached]
      rcases State.setUp_cases isDotted made file verbose with
        ⟨same, -⟩ | ⟨disk, handlers, -, same, given⟩
      · rw [same]
        exact assigned.touch isDotted
      · rw [same]
        have onDisk : Assigned suites { state.touch name with disk } := assigned.touch isDotted
        refine onDisk.setLogger isDotted made ?_
        exact given.imp id fun given => ⟨file, verbose, isOf, given.1⟩
  | tearDown name =>
      have isDotted := dotted name List.mem_cons_self
      have made : name ∈ (state.touch name).names := State.mem_names_touch isDotted
      change Assigned suites (state.tearDown name)
      rw [← State.tearDown_touch isDotted, State.tearDown, State.shed_eq]
      exact (assigned.touch isDotted).setLogger isDotted made (.inl rfl)
  | log record =>
      intro entry isIn
      change entry ∈ (state.log record).loggers at isIn
      rw [State.loggers_log] at isIn
      exact assigned.touch (dotted record.logger List.mem_cons_self) entry isIn
  | configure settings env => cases isOf
  | assert reporter subject made => cases isOf
  | read file => cases isOf
  | standardError => cases isOf

theorem count_flatMap_of_nodup {α β : Type} [DecidableEq α] [DecidableEq β] {row : List α}
    (distinct : row.Nodup) {f : α → List β} {only : α} {item : β}
    (others : ∀ other ∈ row, other ≠ only → item ∉ f other) :
    (row.flatMap f).count item = if only ∈ row then (f only).count item else 0 := by
  induction row with
  | nil => rfl
  | cons first rest ih =>
      obtain ⟨fresh, restDistinct⟩ := List.nodup_cons.mp distinct
      have further := ih restDistinct fun other isIn => others other (List.mem_cons_of_mem first isIn)
      rw [List.flatMap_cons, List.count_append, further]
      by_cases same : first = only
      · subst same
        rw [if_neg fresh, if_pos List.mem_cons_self, Nat.add_zero]
      · rw [List.count_eq_zero.mpr (others first List.mem_cons_self same), Nat.zero_add]
        simp [Ne.symm same]

variable {file : Text}

theorem handlers_of_attached (apart : Apart suites) (assigned : Assigned suites state)
    (sound : state.Sound used) (isSuite : (name, file) ∈ suites) {other : String}
    (made : other ∈ state.names)
    (isIn : .file (Log.Disk.placeOf file) ∈ (state.logger other).handlers) :
    other = name ∧ ∃ verbose, (state.logger other).handlers = State.handlersFor file verbose := by
  rcases assigned _ (State.mem_of_name sound made) with none | ⟨file', verbose, isOther, given⟩
  · have none : (state.logger other).handlers = [] := none
    rw [none] at isIn
    cases isIn
  · have given : (state.logger other).handlers = State.handlersFor file' verbose := given
    rw [given] at isIn
    have samePlace : Log.Disk.placeOf file' = Log.Disk.placeOf file :=
      (State.file_mem_handlersFor.mp isIn).symm
    have same : (other, file') = (name, file) :=
      List.inj_on_of_nodup_map apart.files isOther isSuite samePlace
    cases same
    exact ⟨rfl, verbose, given⟩

theorem mem_names_of_isSetUp (dotted : Log.IsDotted name) (isSetUp : IsSetUp state name file) :
    name ∈ state.names := by
  rw [IsSetUp, State.logger, Log.canonical_of_dotted dotted] at isSetUp
  cases found : state.loggers.lookup name with
  | none =>
      rw [found] at isSetUp
      cases isSetUp
  | some logger => exact (Rows.lookup_isSome_iff name).mp (by rw [found]; rfl)

theorem count_attached (apart : Apart suites) (assigned : Assigned suites state)
    (sound : state.Sound used) (isSuite : (name, file) ∈ suites) (logger : String) :
    (state.attached logger).count (.file (Log.Disk.placeOf file)) =
      if IsSetUp state name file ∧ (name = logger ∨ isAbove name logger) then 1 else 0 := by
  have dotted := apart.dotted _ isSuite
  have distinct : (state.names.filter fun other => other == logger || isAbove other logger).Nodup :=
    sound.distinct.filter _
  have others : ∀ other ∈ state.names.filter (fun other => other == logger || isAbove other logger),
      other ≠ name → .file (Log.Disk.placeOf file) ∉ (state.logger other).handlers := by
    intro other isIn different attached
    exact different
      (handlers_of_attached apart assigned sound isSuite (List.mem_of_mem_filter isIn) attached).1
  -- No other logger has the file, so the count is that of the suite's own logger.
  rw [State.attached_eq sound, count_flatMap_of_nodup distinct others]
  simp only [List.mem_filter, Bool.or_eq_true, beq_iff_eq]
  by_cases isSetUp : IsSetUp state name file
  · have made := mem_names_of_isSetUp dotted isSetUp
    obtain ⟨-, verbose, given⟩ := handlers_of_attached apart assigned sound isSuite made isSetUp
    have once : (State.handlersFor file verbose).count (.file (Log.Disk.placeOf file)) = 1 := by
      cases verbose <;> simp [State.handlersFor]
    rw [given, once]
    simp only [made, isSetUp, true_and]
  · have never : (state.logger name).handlers.count (.file (Log.Disk.placeOf file)) = 0 :=
      List.count_eq_zero.mpr isSetUp
    rw [never, ite_self, if_neg fun both => isSetUp both.1]

theorem history_assigned (sound : state.Sound used) (assigned : Assigned suites state)
    {steps : List (Step τ)} (isOf : ∀ next ∈ steps, next.IsOf suites)
    (orderly : Log.Orderly (used ++ steps.flatMap Step.names)) :
    ∀ moment ∈ history system state steps,
      (∃ used, State.Sound used moment.state) ∧ Assigned suites moment.state ∧
        ∃ file, (moment.record.logger, file) ∈ suites := by
  induction steps generalizing used state with
  | nil => exact fun moment isIn => absurd isIn List.not_mem_nil
  | cons next rest ih =>
      rw [List.flatMap_cons, ← List.append_assoc] at orderly
      have nextIsOf := isOf next List.mem_cons_self
      have nextDotted : ∀ name ∈ next.names, Log.IsDotted name := fun name isIn =>
        orderly.dotted name (List.mem_append_left _ (List.mem_append_right _ isIn))
      have sound' := (step_delivers system sound orderly.of_append).1
      have assigned' := step_assigned system assigned nextIsOf nextDotted
      intro moment isIn
      rcases List.mem_append.mp isIn with here | later
      · cases next with
        | log record =>
            rw [List.mem_singleton.mp here]
            exact ⟨⟨used, sound⟩, assigned, nextIsOf⟩
        | setUp name file verbose => cases here
        | tearDown name => cases here
        | configure settings env => cases nextIsOf
        | assert reporter subject made => cases nextIsOf
        | read file => cases nextIsOf
        | standardError => cases nextIsOf
      · exact ih sound' assigned' (fun other isIn => isOf other (List.mem_cons_of_mem next isIn))
          orderly moment later

theorem assigned_initial (disk : Log.Disk) : Assigned suites { State.initial with disk } := by
  have silent : ∀ entry ∈ State.initial.loggers, entry.2.handlers = [] := by decide
  exact fun entry isIn => .inl (silent entry isIn)

theorem linesOf_suite (apart : Apart suites) {moments : List State.Moment}
    (each : ∀ moment ∈ moments, (∃ used, State.Sound used moment.state) ∧ Assigned suites moment.state)
    (isSuite : (name, file) ∈ suites) :
    State.linesOf (Log.Disk.placeOf file) moments =
      String.join (moments.map fun moment =>
        if IsSetUp moment.state name file ∧
            (name = moment.record.logger ∨ isAbove name moment.record.logger) then
          State.line moment.record.message
        else "") := by
  rw [State.linesOf]
  congr 1
  refine List.map_congr_left fun moment isIn => ?_
  obtain ⟨⟨used, sound⟩, assigned⟩ := each moment isIn
  rw [State.copies, State.Moment.attached, count_attached apart assigned sound isSuite]
  split
  · rw [List.replicate_one, String.join_cons]
    exact String.append_empty
  · rfl

/--
The file of a suite gets what is logged through its logger, or through one below it, while the suite
is set up. So it gets what is logged through its logger only if no other suite is below it.
-/
theorem suites_interleave_only_below (disk : Log.Disk) (apart : Apart suites)
    (steps : List (Step τ)) (isOf : ∀ next ∈ steps, next.IsOf suites)
    (orderly : Log.Orderly (steps.flatMap Step.names)) (isSuite : (name, file) ∈ suites) :
    let start : State := { State.initial with disk }
    let text := (after system start steps).disk.textAt (Log.Disk.placeOf file)
    text = disk.textAt (Log.Disk.placeOf file) ++
        String.join ((history system start steps).map fun moment =>
          if IsSetUp moment.state name file ∧
              (name = moment.record.logger ∨ isAbove name moment.record.logger) then
            State.line moment.record.message
          else "") ∧
      ((∀ other ∈ suites, ¬isAbove name other.1) →
        text = disk.textAt (Log.Disk.placeOf file) ++
          String.join ((history system start steps).map fun moment =>
            if IsSetUp moment.state name file ∧ name = moment.record.logger then
              State.line moment.record.message
            else "")) := by
  intro start text
  have initial : Assigned suites start := assigned_initial disk
  have each := history_assigned system (State.sound_initial disk) initial isOf orderly
  have delivers := (run_delivers system (State.sound_initial disk) orderly).2
  have whole := delivers.files (Log.Disk.placeOf file)
  rw [linesOf_suite apart (fun moment isIn => ⟨(each moment isIn).1, (each moment isIn).2.1⟩)
    isSuite] at whole
  refine ⟨whole, fun noneBelow => whole.trans ?_⟩
  congr 2
  refine List.map_congr_left fun moment isIn => ?_
  obtain ⟨-, -, other, isOther⟩ := each moment isIn
  have notBelow : ¬isAbove name moment.record.logger := noneBelow _ isOther
  simp only [or_iff_left notBelow]

/-- Neither of two names goes on from the other, so their suites are kept apart. -/
theorem suites_side_by_side :
    let steps : List (Step Sample) :=
      [.setUp "suite" "one.log" false, .setUp "suite2" "two.log" false,
        .log ⟨.info, "suite", "first"⟩, .log ⟨.info, "suite2", "second"⟩]
    let reached := after (Sample.system []) State.initial steps
    reached.disk.textAt ["one.log"] = "[T] first\n" ∧
      reached.disk.textAt ["two.log"] = "[T] second\n" := by
  intro steps reached
  let suites : List (String × Text) := [("suite", "one.log"), ("suite2", "two.log")]
  have apart : Apart suites := ⟨by decide, by decide, by decide⟩
  have isOf : ∀ next ∈ steps, next.IsOf suites := by
    simp [steps, suites, Step.IsOf]
  have orderly : Log.Orderly (steps.flatMap Step.names) := .of_no_beginning (by decide) (by decide)
  have first : ("suite", Text.ofString "one.log") ∈ suites := by simp [suites]
  have second : ("suite2", Text.ofString "two.log") ∈ suites := by simp [suites]
  have one := (suites_interleave_only_below (Sample.system []) .empty apart steps isOf orderly first).2
    (by decide)
  have two := (suites_interleave_only_below (Sample.system []) .empty apart steps isOf orderly
    second).2 (by decide)
  exact ⟨one.trans (by decide +kernel), two.trans (by decide +kernel)⟩

/-- Two suites under names of their own, one of which goes on from the other. -/
theorem suite_gets_records_from_below :
    let suites : List (String × Text) := [("a", "a.log"), ("a.b", "ab.log")]
    let steps : List (Step Sample) :=
      [.setUp "a" "a.log" false, .setUp "a.b" "ab.log" false, .log ⟨.info, "a.b", "m"⟩]
    Apart suites ∧ (∀ next ∈ steps, next.IsOf suites) ∧
      (after (Sample.system []) State.initial steps).disk.textAt ["a.log"] = "[T] m\n" := by
  intro suites steps
  refine ⟨⟨by decide, by decide, by decide⟩, ?_, by decide +kernel⟩
  simp [steps, suites, Step.IsOf]

end TypeLaws.Suite
