import TypeLaws.Proofs.Log.Name
import TypeLaws.Proofs.Rows

/-!
The chain above a logger. Where no logger has been overlooked, it consists of the logger, of all
loggers that its name begins with, and of the root, so a record gets to the handlers of just these.
-/

namespace TypeLaws.Log

def libraryLoggers : List String :=
  [assertionLogger, reporterLogger, exportLogger]

namespace State

def names (state : State) : List String :=
  state.loggers.map Prod.fst

/-- The handlers of a logger and of those whose names its name goes on from. -/
def attached (state : State) (name : String) : List Handler :=
  (state.loggers.filter fun entry => entry.1 == name || isAbove entry.1 name).flatMap
    fun entry => entry.2.handlers

/--
What holds of the loggers after names have been used in an order in which none of them has been
overlooked.
-/
structure Sound (used : List String) (state : State) : Prop where
  distinct : state.names.Nodup
  rooted : (rootName, ⟨some .warning, []⟩) ∈ state.loggers
  library : ∀ name ∈ libraryLoggers, name ∈ state.names
  known : ∀ name ∈ state.names, name ∈ used ∨ name = rootName ∨ name ∈ libraryLoggers
  made : ∀ name ∈ used, name.toList.isPrefixOf rootName.toList → name ∈ state.names
  dotted : ∀ name ∈ state.names, IsDotted name
  ordered : ∀ upper ∈ state.names, ∀ lower ∈ state.names, isAbove upper lower →
    upper ≠ rootName → upper.toList.isPrefixOf rootName.toList →
    state.names.idxOf upper < state.names.idxOf lower
  leveled : ∀ entry ∈ state.loggers, entry.1 ≠ rootName →
    entry.2 = .fresh ∨ entry.2.level = some .debug
  filed : ∀ entry ∈ state.loggers, ∀ place, .file place ∈ entry.2.handlers →
    (state.disk.read? place).isSome

variable {used : List String} {state : State}

theorem logger_of_mem (sound : Sound used state) {entry : String × Logger}
    (isIn : entry ∈ state.loggers) : state.logger entry.1 = entry.2 := by
  have dotted := sound.dotted entry.1 (List.mem_map_of_mem isIn)
  rw [logger, canonical_of_dotted dotted, Rows.lookup_of_mem sound.distinct isIn]
  rfl

theorem mem_of_name (sound : Sound used state) {name : String} (isIn : name ∈ state.names) :
    (name, state.logger name) ∈ state.loggers := by
  obtain ⟨entry, isEntry, rfl⟩ := List.mem_map.mp isIn
  rw [logger_of_mem sound isEntry]
  exact isEntry

theorem logger_root (sound : Sound used state) :
    state.logger rootName = ⟨some .warning, []⟩ :=
  logger_of_mem sound sound.rooted

/-! ### Parents -/

def isMade (state : State) (name : String) : Bool :=
  state.names.contains name && name != rootName

theorem isMade_iff (name : String) : state.isMade name ↔ name ∈ state.names ∧ name ≠ rootName := by
  simp [isMade]

theorem standsAbove_eq_isMade (sound : Sound used state) {upper lower : String}
    (lowerMade : lower ∈ state.names) (above : isAbove upper lower) (noRoot : upper ≠ rootName) :
    state.standsAbove upper lower = state.isMade upper := by
  by_cases made : upper ∈ state.names
  · have ordered := sound.ordered upper made lower lowerMade above noRoot
    have first : (!upper.toList.isPrefixOf rootName.toList ||
        decide (state.names.idxOf upper < state.names.idxOf lower)) = true := by
      cases begins : upper.toList.isPrefixOf rootName.toList with
      | false => rfl
      | true => simpa using ordered begins
    have isMade : state.isMade upper = true := (isMade_iff upper).mpr ⟨made, noRoot⟩
    have contained : state.names.contains upper = true := List.contains_iff_mem.mpr made
    rw [isMade]
    exact (congrArg₂ (· && ·) contained first : _)
  · have missing : state.names.contains upper = false := by simpa using made
    rw [isMade, missing]
    exact congrArg (· && _) missing

theorem find?_getD_root {row : List String} {p q : String → Bool}
    (same : ∀ name ∈ row, name ≠ rootName → p name = q name) (outside : q rootName = false)
    (last : ∀ before after, row = before ++ rootName :: after → after = []) :
    (row.find? p).getD rootName = (row.find? q).getD rootName := by
  induction row with
  | nil => rfl
  | cons name rest ih =>
      by_cases isRoot : name = rootName
      · subst isRoot
        have ended : rest = [] := last [] rest rfl
        subst ended
        -- The root is the last candidate, so it makes no difference whether it is found.
        rw [List.find?_cons, List.find?_cons, outside]
        cases p rootName <;> rfl
      · have further := ih (fun other isIn => same other (List.mem_cons_of_mem name isIn)) <| by
          intro before after split
          exact last (name :: before) after (congrArg (name :: ·) split)
        rw [List.find?_cons, List.find?_cons, same name List.mem_cons_self isRoot]
        cases q name with
        | true => rfl
        | false => exact further

theorem parent_eq (sound : Sound used state) {name : String} (nameMade : name ∈ state.names) :
    state.parent name = ((candidates name).find? state.isMade).getD rootName := by
  have dotted := sound.dotted name nameMade
  refine find?_getD_root ?_ ?_ ?_
  · intro upper isIn noRoot
    exact standsAbove_eq_isMade sound nameMade ((mem_candidates_iff dotted upper).mp isIn) noRoot
  · simp [isMade]
  · intro before after row
    rw [candidates_split dotted row]
    decide +kernel

/-! ### Chains -/

theorem chainFrom_eq (sound : Sound used state) {name : String} (nameMade : state.isMade name)
    {fuel : Nat} (enough : ((candidates name).filter state.isMade).length + 2 ≤ fuel) :
    state.chainFrom fuel name = name :: ((candidates name).filter state.isMade ++ [rootName]) := by
  obtain ⟨isIn, noRoot⟩ := (isMade_iff name).mp nameMade
  -- Each step to a parent leaves fewer made loggers above, and those above the parent are the rest.
  induction fuel generalizing name with
  | zero => omega
  | succ fuel ih =>
      rw [chainFrom, if_neg (by simpa using noRoot), parent_eq sound isIn]
      congr 1
      cases found : (candidates name).find? state.isMade with
      | none =>
          have nothing : (candidates name).filter state.isMade = [] := by
            rw [List.filter_eq_nil_iff]
            exact List.find?_eq_none.mp found
          obtain ⟨fuel, rfl⟩ : ∃ more, fuel = more + 1 := ⟨fuel - 1, by omega⟩
          rw [nothing, Option.getD_none, chainFrom, if_pos (by decide)]
          rfl
      | some nearest =>
          obtain ⟨made, before, after, row, unmade⟩ := List.find?_eq_some_iff_append.mp found
          have nothing : before.filter state.isMade = [] := by
            rw [List.filter_eq_nil_iff]
            exact fun upper isIn => by simpa using unmade upper isIn
          have others := candidates_split (sound.dotted name isIn) row
          have filtered : (candidates name).filter state.isMade =
              nearest :: (candidates nearest).filter state.isMade := by
            rw [row, List.filter_append, nothing, List.filter_cons_of_pos made, others]
            rfl
          obtain ⟨nearestIn, nearestNoRoot⟩ := (isMade_iff nearest).mp made
          rw [filtered, List.length_cons] at enough
          rw [Option.getD_some, ih made (by omega) nearestIn nearestNoRoot, filtered]
          rfl

def lineage (state : State) (name : String) : List String :=
  name :: (candidates name).filter state.isMade

theorem nodup_lineage (sound : Sound used state) {name : String} (nameMade : state.isMade name) :
    (state.lineage name).Nodup := by
  have dotted := sound.dotted name ((isMade_iff name).mp nameMade).1
  rw [lineage, List.nodup_cons]
  refine ⟨?_, (nodup_candidates dotted).filter _⟩
  intro again
  exact not_isAbove_self name ((mem_candidates_iff dotted name).mp (List.mem_of_mem_filter again))

theorem mem_lineage_iff (sound : Sound used state) {name : String} (nameMade : state.isMade name)
    (other : String) :
    other ∈ state.lineage name ↔ state.isMade other ∧ (other = name ∨ isAbove other name) := by
  have dotted := sound.dotted name ((isMade_iff name).mp nameMade).1
  rw [lineage, List.mem_cons, List.mem_filter, mem_candidates_iff dotted]
  constructor
  · rintro (rfl | ⟨above, made⟩)
    · exact ⟨nameMade, .inl rfl⟩
    · exact ⟨made, .inr above⟩
  · rintro ⟨made, same | above⟩
    · exact .inl same
    · exact .inr ⟨above, made⟩

theorem chain_eq (sound : Sound used state) {name : String} (nameMade : state.isMade name) :
    state.chain name = state.lineage name ++ [rootName] := by
  have dotted := sound.dotted name ((isMade_iff name).mp nameMade).1
  have noRoot : rootName ∉ state.lineage name := by
    intro isIn
    have made := ((mem_lineage_iff sound nameMade rootName).mp isIn).1
    exact ((isMade_iff rootName).mp made).2 rfl
  have distinct : (state.lineage name ++ [rootName]).Nodup := by
    rw [List.nodup_append]
    refine ⟨nodup_lineage sound nameMade, List.nodup_singleton _, ?_⟩
    rintro upper isIn other isRoot rfl
    rw [List.mem_singleton.mp isRoot] at isIn
    exact noRoot isIn
  have within : state.lineage name ++ [rootName] ⊆ state.names := by
    intro upper isIn
    rcases List.mem_append.mp isIn with inLine | isRoot
    · exact ((isMade_iff upper).mp ((mem_lineage_iff sound nameMade upper).mp inLine).1).1
    · rw [List.mem_singleton.mp isRoot]
      exact List.mem_map_of_mem (f := Prod.fst) sound.rooted
  -- The loggers on the chain are distinct, so there are no more of them than loggers.
  have enough := (List.subperm_of_subset distinct within).length_le
  rw [names, List.length_map, lineage, List.length_append, List.length_cons] at enough
  rw [chain, canonical_of_dotted dotted]
  exact chainFrom_eq sound nameMade enough

/-! ### Handlers -/

theorem flatMap_filter {α β : Type} {p : α → Bool} {f : α → List β} {row : List α}
    (nothing : ∀ item ∈ row, ¬p item → f item = []) : (row.filter p).flatMap f = row.flatMap f := by
  induction row with
  | nil => rfl
  | cons item rest ih =>
      have further := ih fun other isIn => nothing other (List.mem_cons_of_mem item isIn)
      by_cases kept : p item
      · rw [List.filter_cons_of_pos kept, List.flatMap_cons, List.flatMap_cons, further]
      · rw [List.filter_cons_of_neg kept, List.flatMap_cons, nothing item List.mem_cons_self kept,
          further]
        rfl

theorem attached_eq (sound : Sound used state) (name : String) :
    state.attached name =
      (state.names.filter fun other => other == name || isAbove other name).flatMap
        fun other => (state.logger other).handlers := by
  rw [attached, names, List.filter_map, List.flatMap_map]
  refine List.flatMap_congr fun entry isIn => ?_
  rw [logger_of_mem sound (List.mem_of_mem_filter isIn)]

/-- A record gets to the handlers that are attached to its logger or above it, and to no others. -/
theorem handlersOf_perm (sound : Sound used state) {name : String} (nameMade : state.isMade name) :
    (state.handlersOf name).Perm (state.attached name) := by
  let others := state.names.filter fun other => other == name || isAbove other name
  have rootSilent : (state.logger rootName).handlers = [] := by rw [logger_root sound]
  have chained : state.handlersOf name =
      (state.lineage name).flatMap fun other => (state.logger other).handlers := by
    rw [handlersOf, chain_eq sound nameMade, List.flatMap_append, List.flatMap_singleton, rootSilent,
      List.append_nil]
  have withoutRoot : state.attached name =
      (others.filter state.isMade).flatMap fun other => (state.logger other).handlers := by
    rw [attached_eq sound]
    refine (flatMap_filter ?_).symm
    intro other isIn unmade
    have isRoot : other = rootName := by
      by_contra noRoot
      exact unmade ((isMade_iff other).mpr ⟨List.mem_of_mem_filter isIn, noRoot⟩)
    rw [isRoot, rootSilent]
  rw [chained, withoutRoot]
  refine List.Perm.flatMap_right _ ?_
  have distinct : (others.filter state.isMade).Nodup := (sound.distinct.filter _).filter _
  rw [List.perm_ext_iff_of_nodup (nodup_lineage sound nameMade) distinct]
  intro other
  rw [mem_lineage_iff sound nameMade, List.mem_filter, List.mem_filter, isMade_iff]
  simp only [Bool.or_eq_true, beq_iff_eq]
  tauto

/-! ### Levels -/

theorem level_of_row (sound : Sound used state) {row : List String} (made : ∀ name ∈ row,
    state.isMade name) :
    let level := (row ++ [rootName]).findSome? fun name => (state.logger name).level
    level = some .debug ∨
      level = some .warning ∧ row.flatMap (fun name => (state.logger name).handlers) = [] := by
  intro level
  induction row with
  | nil =>
      have rootLevel : level = some .warning := by
        simp [level, logger_root sound]
      exact .inr ⟨rootLevel, rfl⟩
  | cons name rest ih =>
      obtain ⟨isIn, noRoot⟩ := (isMade_iff name).mp (made name List.mem_cons_self)
      have further := ih fun other isIn => made other (List.mem_cons_of_mem name isIn)
      rcases sound.leveled _ (mem_of_name sound isIn) noRoot with fresh | set
      · have fresh : state.logger name = .fresh := fresh
        simpa [level, List.findSome?_cons, fresh, Logger.fresh] using further
      · have set : (state.logger name).level = some .debug := set
        exact .inl (by simp [level, List.findSome?_cons, set])

theorem effectiveLevel_cases (sound : Sound used state) {name : String}
    (nameMade : state.isMade name) :
    state.effectiveLevel name = Level.debug.number ∨
      state.effectiveLevel name = Level.warning.number ∧ state.attached name = [] := by
  have each : ∀ other ∈ state.lineage name, state.isMade other :=
    fun other isIn => ((mem_lineage_iff sound nameMade other).mp isIn).1
  have rootSilent : (state.logger rootName).handlers = [] := by rw [logger_root sound]
  have perm := handlersOf_perm sound nameMade
  rw [effectiveLevel, chain_eq sound nameMade]
  rcases level_of_row sound each with debug | ⟨warning, silent⟩
  · rw [debug]
    exact .inl rfl
  · rw [handlersOf, chain_eq sound nameMade, List.flatMap_append, List.flatMap_singleton, rootSilent,
      silent] at perm
    rw [warning]
    exact .inr ⟨rfl, perm.nil_eq.symm⟩

end State

end TypeLaws.Log
