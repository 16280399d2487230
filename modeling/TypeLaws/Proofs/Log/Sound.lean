import TypeLaws.Proofs.Log.Chain
import TypeLaws.Proofs.Log.Logger

/-!
Loggers stay in order while names are used, loggers are set up and torn down, and files come and go,
as long as no name that begins the name of the root is first used below another logger.
-/

namespace TypeLaws.Log

/--
Names that can be used one after another: none is the root's, and one that the name of the root
begins with is not first used after a name that goes on from it.
-/
structure Orderly (names : List String) : Prop where
  dotted : ∀ name ∈ names, IsDotted name
  noRoot : rootName ∉ names
  early : ∀ before lower after, names = before ++ lower :: after → ∀ upper ∈ after,
    isAbove upper lower → upper.toList.isPrefixOf rootName.toList → upper ∈ before

theorem Orderly.of_append {names more : List String} (orderly : Orderly (names ++ more)) :
    Orderly names := by
  refine ⟨fun name isIn => orderly.dotted name (List.mem_append_left _ isIn), ?_, ?_⟩
  · exact fun isIn => orderly.noRoot (List.mem_append_left _ isIn)
  · rintro before lower after rfl upper isIn
    refine orderly.early before lower (after ++ more) ?_ upper (List.mem_append_left _ isIn)
    rw [List.append_assoc, List.cons_append]

theorem Orderly.last {names : List String} {name : String} (orderly : Orderly (names ++ [name])) :
    IsDotted name ∧ name ≠ rootName := by
  have isIn : name ∈ names ++ [name] := List.mem_append_right _ List.mem_cons_self
  exact ⟨orderly.dotted name isIn, fun same => orderly.noRoot (same ▸ isIn)⟩

theorem Orderly.of_no_beginning {names : List String} (dotted : ∀ name ∈ names, IsDotted name)
    (none : ∀ name ∈ names, ¬name.toList.isPrefixOf rootName.toList) : Orderly names := by
  refine ⟨dotted, fun isIn => none rootName isIn (by decide), ?_⟩
  rintro before lower after rfl upper isIn _ begins
  exact absurd begins
    (none upper (List.mem_append_right before (List.mem_cons_of_mem lower isIn)))

theorem not_isAbove_library {upper lower : String}
    (own : lower = rootName ∨ lower ∈ libraryLoggers)
    (begins : upper.toList.isPrefixOf rootName.toList) : ¬isAbove upper lower := by
  have none : ∀ lower ∈ rootName :: libraryLoggers, ∀ length ∈ List.range 5,
      ¬((rootName.toList.take length) ++ ['.']).isPrefixOf lower.toList := by decide
  have row := List.prefix_iff_eq_take.mp (List.isPrefixOf_iff_prefix.mp begins)
  have short := (List.isPrefixOf_iff_prefix.mp begins).length_le
  have within : upper.toList.length ∈ List.range 5 :=
    List.mem_range.mpr (Nat.lt_succ_of_le short)
  intro above
  refine none lower (List.mem_cons.mpr own) _ within ?_
  rwa [← row]

namespace State

variable {used : List String} {state : State} {name : String}

/-! ### Using names -/

theorem touch_of_mem (dotted : IsDotted name) (made : name ∈ state.names) :
    state.touch name = state := by
  have found : (state.loggers.lookup (canonical name)).isSome := by
    rw [canonical_of_dotted dotted]
    exact (Rows.lookup_isSome_iff name).mpr made
  rw [touch, if_pos found]

theorem touch_of_not_mem (dotted : IsDotted name) (unmade : name ∉ state.names) :
    state.touch name = { state with loggers := state.loggers ++ [(name, .fresh)] } := by
  have missing : ¬(state.loggers.lookup (canonical name)).isSome := by
    rw [canonical_of_dotted dotted]
    exact fun found => unmade ((Rows.lookup_isSome_iff name).mp found)
  rw [touch, if_neg missing, canonical_of_dotted dotted]

theorem mem_names_touch (dotted : IsDotted name) : name ∈ (state.touch name).names := by
  by_cases made : name ∈ state.names
  · rwa [touch_of_mem dotted made]
  · rw [touch_of_not_mem dotted made, names, List.map_append]
    exact List.mem_append_right _ List.mem_cons_self

theorem attached_touch (dotted : IsDotted name) (other : String) :
    (state.touch name).attached other = state.attached other := by
  by_cases made : name ∈ state.names
  · rw [touch_of_mem dotted made]
  · rw [touch_of_not_mem dotted made, attached, attached, List.filter_append, List.flatMap_append]
    have silent : ([(name, Logger.fresh)].filter fun entry =>
        entry.1 == other || isAbove entry.1 other).flatMap (fun entry => entry.2.handlers) = [] := by
      rw [List.flatMap_eq_nil_iff]
      intro entry isIn
      rw [List.mem_singleton.mp (List.mem_of_mem_filter isIn)]
      rfl
    rw [silent, List.append_nil]

theorem Sound.use (sound : Sound used state) {more : List String}
    (made : ∀ name ∈ more, name.toList.isPrefixOf rootName.toList → name ∈ state.names) :
    Sound (used ++ more) state where
  distinct := sound.distinct
  rooted := sound.rooted
  library := sound.library
  known name isIn := (sound.known name isIn).imp_left (List.mem_append_left more)
  made name isIn begins := by
    rcases List.mem_append.mp isIn with earlier | later
    · exact sound.made name earlier begins
    · exact made name later begins
  dotted := sound.dotted
  ordered := sound.ordered
  leveled := sound.leveled
  filed := sound.filed

theorem names_touch_of_not_mem (dotted : IsDotted name) (unmade : name ∉ state.names) :
    (state.touch name).names = state.names ++ [name] := by
  rw [touch_of_not_mem dotted unmade, names, List.map_append]
  rfl

/-- A logger below a new one would have been used before it. -/
theorem Sound.nothing_below (sound : Sound used state) (orderly : Orderly (used ++ [name]))
    (unmade : name ∉ state.names) {lower : String} (isIn : lower ∈ state.names)
    (above : isAbove name lower) : ¬name.toList.isPrefixOf rootName.toList := by
  intro begins
  rcases sound.known lower isIn with isUsed | own
  · obtain ⟨before, after, rfl⟩ := List.append_of_mem isUsed
    have earlier := orderly.early before lower (after ++ [name])
      (by rw [List.append_assoc, List.cons_append]) name
      (List.mem_append_right _ List.mem_cons_self) above begins
    exact unmade (sound.made name (List.mem_append_left _ earlier) begins)
  · exact not_isAbove_library own begins above

theorem Sound.ordered_append (sound : Sound used state) (orderly : Orderly (used ++ [name]))
    (unmade : name ∉ state.names) {upper lower : String} (upperIn : upper ∈ state.names ++ [name])
    (lowerIn : lower ∈ state.names ++ [name]) (above : isAbove upper lower)
    (noRoot : upper ≠ rootName) (begins : upper.toList.isPrefixOf rootName.toList) :
    (state.names ++ [name]).idxOf upper < (state.names ++ [name]).idxOf lower := by
  rcases List.mem_append.mp upperIn with upperEarlier | upperLast
  · rcases List.mem_append.mp lowerIn with lowerEarlier | lowerLast
    · rw [List.idxOf_append_of_mem upperEarlier, List.idxOf_append_of_mem lowerEarlier]
      exact sound.ordered upper upperEarlier lower lowerEarlier above noRoot begins
    · rw [List.mem_singleton.mp lowerLast, List.idxOf_append_of_mem upperEarlier,
        List.idxOf_append_of_notMem unmade]
      exact Nat.lt_add_right _ (List.idxOf_lt_length_iff.mpr upperEarlier)
  · rw [List.mem_singleton.mp upperLast] at above begins
    rcases List.mem_append.mp lowerIn with lowerEarlier | lowerLast
    · exact absurd begins (sound.nothing_below orderly unmade lowerEarlier above)
    · rw [List.mem_singleton.mp lowerLast] at above
      exact absurd above (not_isAbove_self name)

theorem Sound.touch (sound : Sound used state) (orderly : Orderly (used ++ [name])) :
    Sound (used ++ [name]) (state.touch name) := by
  have dotted := orderly.last.1
  by_cases made : name ∈ state.names
  · rw [touch_of_mem dotted made]
    refine sound.use ?_
    intro other isIn _
    rwa [List.mem_singleton.mp isIn]
  have names := names_touch_of_not_mem dotted made
  have touched := touch_of_not_mem dotted made
  refine
    { distinct := ?distinct
      rooted := touched ▸ List.mem_append_left _ sound.rooted
      library := fun other isIn => names ▸ List.mem_append_left _ (sound.library other isIn)
      known := ?known
      made := ?made
      dotted := ?dotted
      ordered := by
        rw [names]
        exact fun upper upperIn lower lowerIn => sound.ordered_append orderly made upperIn lowerIn
      leveled := ?leveled
      filed := ?filed }
  case distinct =>
    rw [names, List.nodup_append]
    refine ⟨sound.distinct, List.nodup_singleton name, ?_⟩
    rintro other isIn last isLast rfl
    rw [List.mem_singleton.mp isLast] at isIn
    exact made isIn
  case known =>
    rw [names]
    intro other isIn
    rcases List.mem_append.mp isIn with earlier | isLast
    · exact (sound.known other earlier).imp_left (List.mem_append_left _)
    · exact .inl (List.mem_append_right _ isLast)
  case made =>
    rw [names]
    intro other isIn begins
    rcases List.mem_append.mp isIn with earlier | isLast
    · exact List.mem_append_left _ (sound.made other earlier begins)
    · exact List.mem_append_right _ isLast
  case dotted =>
    rw [names]
    intro other isIn
    rcases List.mem_append.mp isIn with earlier | isLast
    · exact sound.dotted other earlier
    · rwa [List.mem_singleton.mp isLast]
  case leveled =>
    rw [touched]
    intro entry isIn noRoot
    rcases List.mem_append.mp isIn with earlier | isLast
    · exact sound.leveled entry earlier noRoot
    · rw [List.mem_singleton.mp isLast]
      exact .inl rfl
  case filed =>
    rw [touched]
    intro entry isIn place isFile
    rcases List.mem_append.mp isIn with earlier | isLast
    · exact sound.filed entry earlier place isFile
    · rw [List.mem_singleton.mp isLast] at isFile
      cases isFile

/-! ### Changing loggers -/

theorem touch_touch (dotted : IsDotted name) : (state.touch name).touch name = state.touch name :=
  touch_of_mem dotted (mem_names_touch dotted)

theorem setLogger_touch (dotted : IsDotted name) (logger : Logger) :
    (state.touch name).setLogger name logger = state.setLogger name logger := by
  rw [setLogger, setLogger, touch_touch dotted]

theorem setLogger_of_mem (dotted : IsDotted name) (made : name ∈ state.names) (logger : Logger) :
    state.setLogger name logger =
      { state with
        loggers := state.loggers.map fun entry =>
          if entry.1 == name then (entry.1, logger) else entry } := by
  rw [setLogger, touch_of_mem dotted made, canonical_of_dotted dotted]

theorem names_setLogger (dotted : IsDotted name) (made : name ∈ state.names) (logger : Logger) :
    (state.setLogger name logger).names = state.names := by
  rw [setLogger_of_mem dotted made, names, names, List.map_map]
  refine List.map_congr_left fun entry _ => ?_
  rw [Function.comp_apply]
  split <;> rfl

theorem mem_loggers_setLogger (dotted : IsDotted name) (made : name ∈ state.names)
    {logger : Logger} {entry : String × Logger}
    (isIn : entry ∈ (state.setLogger name logger).loggers) :
    entry = (name, logger) ∨ entry.1 ≠ name ∧ entry ∈ state.loggers := by
  rw [setLogger_of_mem dotted made] at isIn
  obtain ⟨before, isBefore, rfl⟩ := List.mem_map.mp isIn
  by_cases same : before.1 = name
  · rw [if_pos (beq_iff_eq.mpr same), same]
    exact .inl rfl
  · rw [if_neg (by simpa using same)]
    exact .inr ⟨same, isBefore⟩

theorem mem_loggers_setLogger_of_ne (dotted : IsDotted name) (made : name ∈ state.names)
    {logger : Logger} {entry : String × Logger} (isIn : entry ∈ state.loggers)
    (other : entry.1 ≠ name) : entry ∈ (state.setLogger name logger).loggers := by
  rw [setLogger_of_mem dotted made]
  refine List.mem_map.mpr ⟨entry, isIn, ?_⟩
  rw [if_neg (by simpa using other)]

theorem setLogger_setLogger (dotted : IsDotted name) (made : name ∈ state.names)
    (first second : Logger) :
    (state.setLogger name first).setLogger name second = state.setLogger name second := by
  have still : name ∈ (state.setLogger name first).names := by
    rwa [names_setLogger dotted made]
  rw [setLogger_of_mem dotted still, setLogger_of_mem dotted made, setLogger_of_mem dotted made,
    List.map_map]
  congr 1
  refine List.map_congr_left fun entry _ => ?_
  rw [Function.comp_apply]
  by_cases same : entry.1 = name
  · simp [same]
  · simp [same]

theorem Sound.setLogger (sound : Sound used state) (made : name ∈ state.names)
    (noRoot : name ≠ rootName) {logger : Logger}
    (level : logger = .fresh ∨ logger.level = some .debug)
    (filed : ∀ place, .file place ∈ logger.handlers → (state.disk.read? place).isSome) :
    Sound used (state.setLogger name logger) := by
  have dotted := sound.dotted name made
  have names := names_setLogger dotted made logger
  refine
    { distinct := by rw [names]; exact sound.distinct
      rooted := mem_loggers_setLogger_of_ne dotted made sound.rooted noRoot.symm
      library := by rw [names]; exact sound.library
      known := by rw [names]; exact sound.known
      made := by rw [names]; exact sound.made
      dotted := by rw [names]; exact sound.dotted
      ordered := by rw [names]; exact sound.ordered
      leveled := ?_
      filed := ?_ }
  · intro entry isIn entryNoRoot
    rcases mem_loggers_setLogger dotted made isIn with rfl | ⟨-, before⟩
    · exact level
    · exact sound.leveled entry before entryNoRoot
  · intro entry isIn place isFile
    rw [disk_setLogger]
    rcases mem_loggers_setLogger dotted made isIn with rfl | ⟨-, before⟩
    · exact filed place isFile
    · exact sound.filed entry before place isFile

theorem Sound.of_loggers (sound : Sound used state) {after : State}
    (same : after.loggers = state.loggers)
    (kept : ∀ place, (state.disk.read? place).isSome → (after.disk.read? place).isSome) :
    Sound used after := by
  obtain ⟨loggers, disk, standardError⟩ := after
  cases same
  exact
    { sound with
      filed := fun entry isIn place isFile => kept place (sound.filed entry isIn place isFile) }

/-! ### Setting up and tearing down -/

theorem setLogger_changeDisk (dotted : IsDotted name) (made : name ∈ state.names) (logger : Logger)
    (disk : Disk) :
    { state.setLogger name logger with disk } = ({ state with disk }).setLogger name logger := by
  have made' : name ∈ ({ state with disk }).names := made
  rw [setLogger_of_mem dotted made, setLogger_of_mem dotted made']

/--
A set-up is refused without a trace, or gives the logger the lowest level and, if the file can be
opened, its handlers.
-/
theorem setUp_cases (dotted : IsDotted name) (made : name ∈ state.names) (file : Text)
    (verbose : Bool) :
    ((state.setUp name file verbose).2 = state ∧ (state.logger name).handlers ≠ []) ∨
      ∃ disk handlers, state.disk.Keeps disk ∧
        (state.setUp name file verbose).2 =
          ({ state with disk }).setLogger name ⟨some .debug, handlers⟩ ∧
        (handlers = [] ∨
          handlers = handlersFor file verbose ∧ (disk.read? (Disk.placeOf file)).isSome) := by
  by_cases free : (state.logger name).handlers = []
  · right
    obtain ⟨keeps, opens⟩ := Disk.openFile_keeps file state.disk
    rcases ran : (Disk.openFile file).run.run state.disk with ⟨ending, disk⟩
    rw [ran] at keeps opens
    have made' : name ∈ ({ state with disk }).names := made
    cases ending with
    | error fault =>
        rw [setUp_of_fault free ran]
        exact ⟨disk, [], keeps, setLogger_changeDisk dotted made _ disk, .inl rfl⟩
    | ok place =>
        obtain ⟨rfl, isFile⟩ := opens place rfl
        rw [setUp_of_opened free ran]
        refine ⟨disk, handlersFor file verbose, keeps, ?_, .inr ⟨rfl, isFile⟩⟩
        dsimp only
        rw [setLogger_changeDisk dotted made, setLogger_setLogger dotted made']
  · left
    rw [setUp_of_inUse free]
    exact ⟨rfl, free⟩

theorem setUp_touch (dotted : IsDotted name) (file : Text) (verbose : Bool) :
    (state.touch name).setUp name file verbose = state.setUp name file verbose := by
  by_cases made : name ∈ state.names
  · rw [touch_of_mem dotted made]
  · have missing : state.loggers.lookup name = none := by
      rw [← Option.not_isSome_iff_eq_none, Rows.lookup_isSome_iff]
      exact made
    have fresh : (state.logger name).handlers = [] := by
      rw [logger, canonical_of_dotted dotted, missing]
      rfl
    have free : ¬(!(state.logger name).handlers.isEmpty) = true := by simp [fresh]
    unfold setUp
    rw [logger_touch, if_neg free, if_neg free, setLogger_touch dotted]

theorem tearDown_touch (dotted : IsDotted name) :
    (state.touch name).tearDown name = state.tearDown name := by
  rw [tearDown, tearDown, logger_touch, setLogger_touch dotted]

theorem Sound.setUp (sound : Sound used state) (made : name ∈ state.names)
    (noRoot : name ≠ rootName) (file : Text) (verbose : Bool) :
    Sound used (state.setUp name file verbose).2 := by
  rcases setUp_cases (sound.dotted name made) made file verbose with
    ⟨same, -⟩ | ⟨disk, handlers, keeps, same, assigned⟩
  · rwa [same]
  · rw [same]
    have onDisk : Sound used { state with disk } := sound.of_loggers rfl keeps.file
    refine onDisk.setLogger made noRoot (.inr rfl) ?_
    intro place isFile
    rcases assigned with rfl | ⟨rfl, isThere⟩
    · cases isFile
    · rwa [file_mem_handlersFor.mp isFile]

theorem Sound.tearDown (sound : Sound used state) (made : name ∈ state.names)
    (noRoot : name ≠ rootName) : Sound used (state.tearDown name) := by
  rw [State.tearDown, shed_eq]
  refine sound.setLogger made noRoot ?_ ?_
  · rcases sound.leveled _ (mem_of_name sound made) noRoot with fresh | level
    · have fresh : state.logger name = .fresh := fresh
      rw [fresh]
      exact .inl rfl
    · exact .inr level
  · intro place isFile
    cases isFile

end State

end TypeLaws.Log
