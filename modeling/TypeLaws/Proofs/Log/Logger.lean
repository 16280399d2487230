import TypeLaws.Log.State
import TypeLaws.Proofs.Log.Disk
import TypeLaws.Proofs.Rows

/-!
One logger at a time. A change to a logger is seen under each name that it goes by and under no
other. Logging changes no logger; a set-up changes the one that it names, and gives it handlers only
if its file can be opened.
-/

namespace TypeLaws.Log.State

variable {state : State} {name other : String}

theorem logger_congr (same : canonical other = canonical name) :
    state.logger other = state.logger name := by
  rw [logger, logger, same]

theorem logger_touch (name other : String) :
    (state.touch name).logger other = state.logger other := by
  unfold touch
  split
  · rfl
  · rename_i unmade
    have missing : state.loggers.lookup (canonical name) = none :=
      Option.not_isSome_iff_eq_none.mp unmade
    rw [logger, logger, List.lookup_append]
    by_cases same : canonical other = canonical name
    · simp [same, missing]
    · have skipped : (canonical other == canonical name) = false := beq_eq_false_iff_ne.mpr same
      simp [List.lookup_cons, skipped]

theorem disk_touch (name : String) : (state.touch name).disk = state.disk := by
  unfold touch
  split <;> rfl

theorem standardError_touch (name : String) :
    (state.touch name).standardError = state.standardError := by
  unfold touch
  split <;> rfl

theorem isSome_lookup_touch (name : String) :
    ((state.touch name).loggers.lookup (canonical name)).isSome := by
  unfold touch
  split
  · assumption
  · rw [List.lookup_append]
    simp

theorem logger_setLogger (name other : String) (logger : Logger) :
    (state.setLogger name logger).logger other =
      if canonical other = canonical name then logger else state.logger other := by
  have made : ((state.touch name).loggers.lookup (canonical name)).isSome := isSome_lookup_touch name
  rw [State.logger, setLogger, Rows.lookup_map_assign]
  by_cases same : canonical other = canonical name
  · obtain ⟨before, found⟩ := Option.isSome_iff_exists.mp made
    rw [if_pos same, if_pos same, same, found]
    rfl
  · rw [if_neg same, if_neg same, ← State.logger, logger_touch]

theorem disk_setLogger (name : String) (logger : Logger) :
    (state.setLogger name logger).disk = state.disk :=
  disk_touch name

theorem standardError_setLogger (name : String) (logger : Logger) :
    (state.setLogger name logger).standardError = state.standardError :=
  standardError_touch name

theorem loggers_foldl_writeTo (text : String) (handlers : List Handler) (state : State) :
    (handlers.foldl (writeTo text) state).loggers = state.loggers := by
  induction handlers generalizing state with
  | nil => rfl
  | cons handler rest ih =>
      rw [List.foldl_cons, ih]
      cases handler <;> rfl

theorem loggers_log (record : Record) (state : State) :
    (state.log record).loggers = (state.touch record.logger).loggers := by
  unfold log
  dsimp only
  split
  · rfl
  · split
    · split <;> rfl
    · exact loggers_foldl_writeTo _ _ _

theorem logger_log (record : Record) (state : State) (name : String) :
    (state.log record).logger name = state.logger name := by
  rw [logger, loggers_log, ← logger, logger_touch]

theorem logger_logAll (records : List Record) (state : State) (name : String) :
    (state.logAll records).logger name = state.logger name := by
  induction records generalizing state with
  | nil => rfl
  | cons record rest ih =>
      change ((state.log record).logAll rest).logger name = _
      rw [ih, logger_log]

/-- Removing every handler of the row that was copied leaves none: the next one is always first. -/
theorem shed_eq (logger : Logger) : logger.shed = { logger with handlers := [] } := by
  obtain ⟨level, handlers⟩ := logger
  rw [Logger.shed]
  induction handlers with
  | nil => rfl
  | cons handler rest ih =>
      have removed : Logger.remove ⟨level, handler :: rest⟩ handler = ⟨level, rest⟩ := by
        rw [Logger.remove, List.erase_cons_head]
      rw [List.foldl_cons, removed]
      exact ih

theorem logger_tearDown (name other : String) :
    (state.tearDown name).logger other =
      if canonical other = canonical name then { state.logger name with handlers := [] }
      else state.logger other := by
  rw [tearDown, shed_eq, logger_setLogger]

def handlersFor (file : Text) (verbose : Bool) : List Handler :=
  .file (Disk.placeOf file) :: if verbose then [.standardError] else []

theorem file_mem_handlersFor {place : Place} {file : Text} {verbose : Bool} :
    .file place ∈ handlersFor file verbose ↔ place = Disk.placeOf file := by
  cases verbose <;> simp [handlersFor]

theorem setUp_of_inUse (inUse : (state.logger name).handlers ≠ []) (file : Text)
    (verbose : Bool) : state.setUp name file verbose = (.error (.inUse name), state) := by
  have busy : (!(state.logger name).handlers.isEmpty) = true := by simpa using inUse
  rw [setUp, if_pos busy]

variable {file : Text} {disk : Disk}

/-- The level is set before the file is opened, so it stays if the file cannot be opened. -/
theorem setUp_of_fault (free : (state.logger name).handlers = []) {fault : Disk.Fault}
    (failed : (Disk.openFile file).run.run state.disk = (.error fault, disk)) (verbose : Bool) :
    state.setUp name file verbose =
      (.error (.disk fault), { state.setLogger name ⟨some .debug, []⟩ with disk }) := by
  have idle : ¬(!(state.logger name).handlers.isEmpty) = true := by simp [free]
  unfold setUp
  rw [if_neg idle]
  dsimp only
  rw [disk_setLogger, failed]

theorem setUp_of_opened (free : (state.logger name).handlers = []) {place : Place}
    (opened : (Disk.openFile file).run.run state.disk = (.ok place, disk)) (verbose : Bool) :
    state.setUp name file verbose =
      (.ok (), ({ state.setLogger name ⟨some .debug, []⟩ with disk } : State).setLogger name
        ⟨some .debug, handlersFor file verbose⟩) := by
  have idle : ¬(!(state.logger name).handlers.isEmpty) = true := by simp [free]
  have isNamed : place = Disk.placeOf file :=
    ((Disk.openFile_keeps file state.disk).2 place (congrArg Prod.fst opened)).1
  subst isNamed
  unfold setUp
  rw [if_neg idle]
  dsimp only
  rw [disk_setLogger, opened]
  rfl

end TypeLaws.Log.State
