import TypeLaws.Proofs.Log.Sound

/-!
Where records go. A record is written once for each handler that is attached to its logger or above
it: nothing is lost, written twice, or written anywhere else. Only where there is no handler at all
does an urgent record appear on standard error, as its bare message.
-/

namespace TypeLaws.Log.State

def copies (handler : Handler) (handlers : List Handler) (text : String) : String :=
  String.join (List.replicate (handlers.count handler) text)

/-- A record that is logged, with the loggers as they are at that moment. -/
structure Moment where
  state : State
  record : Record

def Moment.attached (moment : Moment) : List Handler :=
  moment.state.attached moment.record.logger

/-- The lines that a file gets for the records of a history. -/
def linesOf (place : Place) (history : List Moment) : String :=
  String.join (history.map fun moment =>
    copies (.file place) moment.attached (line moment.record.message))

def Moment.error (moment : Moment) : String :=
  match moment.attached with
  | [] =>
      if moment.record.level.number < Level.warning.number then ""
      else moment.record.message ++ "\n"
  | handlers => copies .standardError handlers (line moment.record.message)

def errorsOf (history : List Moment) : String :=
  String.join (history.map Moment.error)

/-- All that happens to files and to standard error is that records are written. -/
structure Delivers (before : State) (history : List Moment) (after : State) : Prop where
  files : ∀ place, after.disk.textAt place = before.disk.textAt place ++ linesOf place history
  kept : ∀ place, (before.disk.read? place).isSome → (after.disk.read? place).isSome
  errors : after.standardError = before.standardError ++ errorsOf history

theorem copies_cons (handler first : Handler) (rest : List Handler) (text : String) :
    copies handler (first :: rest) text =
      (if first = handler then text else "") ++ copies handler rest text := by
  rw [copies, copies, List.count_cons]
  by_cases same : first = handler
  · rw [if_pos (beq_iff_eq.mpr same), if_pos same, List.replicate_succ, String.join_cons]
  · rw [if_neg (by simpa using same), if_neg same, Nat.add_zero, String.empty_append]

theorem copies_single (handler only : Handler) (text : String) :
    copies handler [only] text = if only = handler then text else "" := by
  rw [copies_cons]
  exact String.append_empty

theorem copies_of_perm {handlers others : List Handler} (perm : handlers.Perm others)
    (handler : Handler) (text : String) : copies handler handlers text = copies handler others text := by
  rw [copies, copies, perm.count_eq]

theorem linesOf_singleton (place : Place) (moment : Moment) :
    linesOf place [moment] =
      copies (.file place) moment.attached (line moment.record.message) := by
  rw [linesOf, List.map_singleton, String.join_cons]
  exact String.append_empty

theorem errorsOf_singleton (moment : Moment) : errorsOf [moment] = moment.error := by
  rw [errorsOf, List.map_singleton, String.join_cons]
  exact String.append_empty

namespace Delivers

theorem trans {first second third : State} {earlier later : List Moment}
    (before : Delivers first earlier second) (after : Delivers second later third) :
    Delivers first (earlier ++ later) third := by
  constructor
  · intro place
    rw [after.files, before.files, linesOf, linesOf, linesOf, List.map_append, String.join_append,
      String.append_assoc]
  · intro place isFile
    exact after.kept place (before.kept place isFile)
  · rw [after.errors, before.errors, errorsOf, errorsOf, errorsOf, List.map_append,
      String.join_append, String.append_assoc]

theorem nothing {before after : State} (keeps : before.disk.Keeps after.disk)
    (same : after.standardError = before.standardError) : Delivers before [] after :=
  ⟨fun place => (keeps.text place).trans String.append_empty.symm, keeps.file,
    same.trans String.append_empty.symm⟩

end Delivers

/-! ### Writing -/

/-- What writing a text to a row of handlers does. -/
structure Writes (before : State) (handlers : List Handler) (text : String) (after : State) :
    Prop where
  loggers : after.loggers = before.loggers
  files : ∀ place,
    after.disk.textAt place = before.disk.textAt place ++ copies (.file place) handlers text
  kept : ∀ place, (after.disk.read? place).isSome = (before.disk.read? place).isSome
  errors : after.standardError = before.standardError ++ copies .standardError handlers text

theorem writeTo_writes {text : String} {state : State} {handler : Handler}
    (filed : ∀ place, handler = .file place → (state.disk.read? place).isSome) :
    Writes state [handler] text (state.writeTo text handler) := by
  cases handler with
  | file place =>
      refine ⟨rfl, ?_, fun other => Disk.isSome_read?_append place text state.disk other, ?_⟩
      · intro other
        change (state.disk.append place text).textAt other = _
        rw [Disk.textAt_append (filed place rfl), copies_single]
        by_cases same : other = place
        · rw [if_pos same, if_pos (congrArg Handler.file same.symm)]
        · rw [if_neg same, if_neg fun equal => same (Handler.file.inj equal).symm,
            String.append_empty]
      · exact String.append_empty.symm
  | standardError =>
      refine ⟨rfl, ?_, fun _ => rfl, rfl⟩
      intro other
      exact String.append_empty.symm

theorem foldl_writes {text : String} {handlers : List Handler} {state : State}
    (filed : ∀ place, .file place ∈ handlers → (state.disk.read? place).isSome) :
    Writes state handlers text (handlers.foldl (writeTo text) state) := by
  induction handlers generalizing state with
  | nil =>
      exact ⟨rfl, fun _ => String.append_empty.symm, fun _ => rfl, String.append_empty.symm⟩
  | cons handler rest ih =>
      have first : Writes state [handler] text (state.writeTo text handler) :=
        writeTo_writes fun place same => filed place (same ▸ List.mem_cons_self)
      -- Writing to the first handler loses no file, so the others can still be written to.
      have stillFiled : ∀ place, .file place ∈ rest →
          ((state.writeTo text handler).disk.read? place).isSome := by
        intro place isIn
        rw [first.kept]
        exact filed place (List.mem_cons_of_mem handler isIn)
      have later := ih stillFiled
      rw [List.foldl_cons]
      refine ⟨later.loggers.trans first.loggers, ?_, ?_, ?_⟩
      · intro place
        rw [later.files, first.files, copies_cons _ handler rest, copies_single, String.append_assoc]
      · exact fun place => (later.kept place).trans (first.kept place)
      · rw [later.errors, first.errors, copies_cons _ handler rest, copies_single,
          String.append_assoc]

/-! ### Logging -/

variable {used : List String} {state : State}

theorem filed_of_attached (sound : Sound used state) {name : String} {place : Place}
    (isIn : .file place ∈ state.attached name) : (state.disk.read? place).isSome := by
  obtain ⟨entry, isEntry, isHandler⟩ := List.mem_flatMap.mp isIn
  exact sound.filed entry (List.mem_of_mem_filter isEntry) place isHandler

theorem debug_le (level : Level) : Level.debug.number ≤ level.number := by
  cases level <;> decide

theorem log_of_silent (sound : Sound used state) {record : Record}
    (made : state.isMade record.logger) (silent : state.attached record.logger = []) :
    state.log record =
      { state with standardError := state.standardError ++ Moment.error ⟨state, record⟩ } := by
  obtain ⟨isIn, -⟩ := (isMade_iff record.logger).mp made
  have noHandler : state.handlersOf record.logger = [] := by
    have perm := handlersOf_perm sound made
    rw [silent] at perm
    exact perm.eq_nil
  rw [log, touch_of_mem (sound.dotted _ isIn) isIn, noHandler, Moment.error, Moment.attached, silent]
  dsimp only
  by_cases urgent : record.level.number < Level.warning.number
  · rw [if_pos urgent, if_pos urgent, String.append_empty, ite_self]
  · have enabled : ¬record.level.number < state.effectiveLevel record.logger := by
      rcases effectiveLevel_cases sound made with debug | ⟨warning, -⟩
      · rw [debug]
        exact Nat.not_lt.mpr (debug_le record.level)
      · rwa [warning]
    rw [if_neg enabled, if_neg urgent, if_neg urgent, String.append_assoc]

theorem log_of_attached (sound : Sound used state) {record : Record}
    (made : state.isMade record.logger) (heard : state.attached record.logger ≠ []) :
    state.log record =
      (state.handlersOf record.logger).foldl (writeTo (line record.message)) state := by
  obtain ⟨isIn, -⟩ := (isMade_iff record.logger).mp made
  have enabled : ¬record.level.number < state.effectiveLevel record.logger := by
    rcases effectiveLevel_cases sound made with debug | ⟨-, silent⟩
    · rw [debug]
      exact Nat.not_lt.mpr (debug_le record.level)
    · exact absurd silent heard
  rw [log, touch_of_mem (sound.dotted _ isIn) isIn, if_neg enabled]
  cases handlers : state.handlersOf record.logger with
  | nil =>
      have perm := handlersOf_perm sound made
      rw [handlers] at perm
      exact absurd perm.nil_eq.symm heard
  | cons first rest => rfl

theorem log_delivers_of_made (sound : Sound used state) {record : Record}
    (made : state.isMade record.logger) :
    Sound used (state.log record) ∧ Delivers state [⟨state, record⟩] (state.log record) := by
  have perm := handlersOf_perm sound made
  by_cases silent : state.attached record.logger = []
  · rw [log_of_silent sound made silent]
    refine ⟨sound.of_loggers rfl fun _ isFile => isFile, ?_, fun _ isFile => isFile, ?_⟩
    · intro place
      have none : linesOf place [⟨state, record⟩] = "" := by
        rw [linesOf_singleton, Moment.attached, silent]
        rfl
      rw [none, String.append_empty]
    · rw [errorsOf_singleton]
  · have filed : ∀ place, .file place ∈ state.handlersOf record.logger →
        (state.disk.read? place).isSome :=
      fun place isIn => filed_of_attached sound (perm.mem_iff.mp isIn)
    have writes : Writes state (state.handlersOf record.logger) (line record.message)
        (state.log record) := by
      rw [log_of_attached sound made silent]
      exact foldl_writes filed
    have kept : ∀ place, (state.disk.read? place).isSome →
        ((state.log record).disk.read? place).isSome := by
      intro place isFile
      rwa [writes.kept]
    refine ⟨sound.of_loggers writes.loggers kept, ?_, kept, ?_⟩
    · intro place
      rw [writes.files, copies_of_perm perm, linesOf_singleton, Moment.attached]
    · rw [writes.errors, copies_of_perm perm, errorsOf_singleton, Moment.error, Moment.attached]
      cases attached : state.attached record.logger with
      | nil => exact absurd attached silent
      | cons first rest => rfl

/-- A record may make its logger, which does not change who hears it. -/
theorem log_delivers (sound : Sound used state) {record : Record}
    (orderly : Orderly (used ++ [record.logger])) :
    Sound (used ++ [record.logger]) (state.log record) ∧
      Delivers state [⟨state, record⟩] (state.log record) := by
  obtain ⟨dotted, noRoot⟩ := orderly.last
  have made : (state.touch record.logger).isMade record.logger :=
    (isMade_iff record.logger).mpr ⟨mem_names_touch dotted, noRoot⟩
  -- Logging makes the logger anyway, so it may be made before.
  have touched : (state.touch record.logger).log record = state.log record := by
    rw [log, log, touch_touch dotted]
  obtain ⟨sound', delivers⟩ := log_delivers_of_made (sound.touch orderly) made
  rw [touched] at sound' delivers
  refine ⟨sound', ?_, ?_, ?_⟩
  · intro place
    rw [delivers.files, linesOf_singleton, linesOf_singleton, Moment.attached, Moment.attached,
      attached_touch dotted, disk_touch]
  · intro place isFile
    refine delivers.kept place ?_
    rwa [disk_touch]
  · rw [delivers.errors, errorsOf_singleton, errorsOf_singleton, Moment.error, Moment.error,
      Moment.attached, Moment.attached, attached_touch dotted, standardError_touch]

def moments (state : State) : List Record → List Moment
  | [] => []
  | record :: rest => ⟨state, record⟩ :: moments (state.log record) rest

theorem logAll_delivers (sound : Sound used state) {records : List Record}
    (known : ∀ record ∈ records, record.logger ∈ libraryLoggers) :
    Sound used (state.logAll records) ∧
      Delivers state (state.moments records) (state.logAll records) := by
  induction records generalizing state with
  | nil => exact ⟨sound, Delivers.nothing (Disk.Keeps.refl _) rfl⟩
  | cons record rest ih =>
      have own := known record List.mem_cons_self
      have noRoot : ∀ name ∈ libraryLoggers, name ≠ rootName := by decide
      have made : state.isMade record.logger :=
        (isMade_iff record.logger).mpr ⟨sound.library _ own, noRoot _ own⟩
      obtain ⟨sound', delivers⟩ := log_delivers_of_made sound made
      obtain ⟨sound'', further⟩ :=
        ih sound' fun other isIn => known other (List.mem_cons_of_mem record isIn)
      exact ⟨sound'', delivers.trans further⟩

/-! ### Setting up and tearing down -/

theorem setUp_delivers {name : String} (sound : Sound used state)
    (orderly : Orderly (used ++ [name])) (file : Text) (verbose : Bool) :
    Sound (used ++ [name]) (state.setUp name file verbose).2 ∧
      Delivers state [] (state.setUp name file verbose).2 := by
  obtain ⟨dotted, noRoot⟩ := orderly.last
  have made : name ∈ (state.touch name).names := mem_names_touch dotted
  have sound' := (sound.touch orderly).setUp made noRoot file verbose
  have cases' := setUp_cases dotted made file verbose
  rw [setUp_touch dotted] at sound' cases'
  refine ⟨sound', ?_⟩
  rcases cases' with ⟨same, -⟩ | ⟨disk, handlers, keeps, same, -⟩
  · rw [same]
    refine Delivers.nothing ?_ (standardError_touch name)
    rw [disk_touch]
    exact Disk.Keeps.refl _
  · have made' : name ∈ ({ state.touch name with disk }).names := made
    rw [same]
    rw [disk_touch] at keeps
    refine Delivers.nothing ?_ ?_
    · rwa [disk_setLogger]
    · rw [standardError_setLogger]
      exact standardError_touch name

theorem tearDown_delivers {name : String} (sound : Sound used state)
    (orderly : Orderly (used ++ [name])) :
    Sound (used ++ [name]) (state.tearDown name) ∧ Delivers state [] (state.tearDown name) := by
  obtain ⟨dotted, noRoot⟩ := orderly.last
  have made : name ∈ (state.touch name).names := mem_names_touch dotted
  have sound' := (sound.touch orderly).tearDown made noRoot
  rw [tearDown_touch dotted] at sound'
  refine ⟨sound', Delivers.nothing ?_ ?_⟩
  · rw [← tearDown_touch dotted, tearDown, disk_setLogger, disk_touch]
    exact Disk.Keeps.refl _
  · rw [← tearDown_touch dotted, tearDown, standardError_setLogger, standardError_touch]

/-! ### The first state -/

theorem sound_initial (disk : Disk) : Sound [] { State.initial with disk } := by
  have names : ({ State.initial with disk }).names = rootName :: libraryLoggers := rfl
  have own {name : String} (isIn : name ∈ ({ State.initial with disk }).names) :
      name = rootName ∨ name ∈ libraryLoggers := List.mem_cons.mp (names ▸ isIn)
  have entries : ∀ entry ∈ State.initial.loggers,
      entry = (rootName, ⟨some .warning, []⟩) ∨ entry.2 = .fresh := by decide
  refine
    { distinct := by rw [names]; decide
      rooted := List.mem_cons_self
      library := fun name isIn => names ▸ List.mem_cons_of_mem rootName isIn
      known := fun name isIn => .inr (own isIn)
      made := fun name isIn => absurd isIn List.not_mem_nil
      dotted := ?_
      ordered := ?_
      leveled := ?_
      filed := ?_ }
  · have dotted : ∀ name ∈ rootName :: libraryLoggers,
        ∀ part ∈ Text.splitAll (· == '.') name.toList, part ≠ [] := by decide
    exact fun name isIn => dotted name (names ▸ isIn)
  · intro upper _ lower isIn above _ begins
    exact absurd above (not_isAbove_library (own isIn) begins)
  · intro entry isIn noRoot
    rcases entries entry isIn with rfl | fresh
    · exact absurd rfl noRoot
    · exact .inl fresh
  · intro entry isIn place isFile
    rcases entries entry isIn with rfl | fresh
    · cases isFile
    · rw [fresh] at isFile
      cases isFile

end TypeLaws.Log.State
