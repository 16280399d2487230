import TypeLaws.Log.Disk
import TypeLaws.Proofs.Work

/-!
What becomes of the texts of files. Opening a file makes directories and at most an empty file, and
leaves every text as it is; appending adds to one of them.
-/

namespace TypeLaws.Log.Disk

def textAt (disk : Disk) (place : Place) : String :=
  (disk.read? place).getD ""

theorem lookup_filter_ne {place other : Place} (different : other ≠ place)
    (entries : List (Place × Entry)) :
    (entries.filter fun entry => entry.1 != place).lookup other = entries.lookup other := by
  induction entries with
  | nil => rfl
  | cons entry rest ih =>
      by_cases same : entry.1 = place
      · have skipped : (other == entry.1) = false := by
          rw [same]
          exact beq_eq_false_iff_ne.mpr different
        rw [List.filter_cons_of_neg (by simp [same]), ih, List.lookup_cons, skipped]
      · rw [List.filter_cons_of_pos (by simp [same]), List.lookup_cons, List.lookup_cons, ih]

theorem entry?_put_self {place : Place} (below : place ≠ []) (entry : Entry) (disk : Disk) :
    entry? (disk.put place entry) place = some entry := by
  cases place with
  | nil => exact absurd rfl below
  | cons part rest => exact List.lookup_cons_self

theorem entry?_put_of_ne {place other : Place} (different : other ≠ place) (entry : Entry)
    (disk : Disk) : entry? (disk.put place entry) other = disk.entry? other := by
  cases other with
  | nil => rfl
  | cons part rest =>
      have skipped : ((part :: rest) == place) = false := beq_eq_false_iff_ne.mpr different
      change ((place, entry) :: disk.entries.filter fun other => other.1 != place).lookup _ = _
      rw [List.lookup_cons, skipped]
      exact lookup_filter_ne different disk.entries

theorem read?_put_of_ne {place other : Place} (different : other ≠ place) (entry : Entry)
    (disk : Disk) : (disk.put place entry).read? other = disk.read? other := by
  rw [read?, read?, entry?_put_of_ne different]

/-- No file is lost, and no text is changed. -/
structure Keeps (before after : Disk) : Prop where
  text : ∀ place, after.textAt place = before.textAt place
  file : ∀ place, (before.read? place).isSome → (after.read? place).isSome

theorem Keeps.refl (disk : Disk) : Keeps disk disk :=
  ⟨fun _ => rfl, fun _ isFile => isFile⟩

theorem Keeps.trans {first second third : Disk} (before : Keeps first second)
    (after : Keeps second third) : Keeps first third :=
  ⟨fun place => (after.text place).trans (before.text place),
    fun place isFile => after.file place (before.file place isFile)⟩

/-- Nothing is lost where nothing was, if what is put there has no text. -/
theorem keeps_put {disk : Disk} {place : Place} (missing : disk.entry? place = none) {entry : Entry}
    (silent : entry = .directory ∨ entry = .file "") : Keeps disk (disk.put place entry) := by
  have below : place ≠ [] := by
    rintro rfl
    cases missing
  have unread : disk.read? place = none := by rw [read?, missing]
  constructor
  · intro other
    by_cases same : other = place
    · subst same
      rw [textAt, textAt, unread, read?, entry?_put_self below]
      rcases silent with rfl | rfl <;> rfl
    · rw [textAt, textAt, read?_put_of_ne same]
  · intro other isFile
    by_cases same : other = place
    · subst same
      rw [unread] at isFile
      cases isFile
    · rwa [read?_put_of_ne same]

theorem makeLast_keeps (parent : Place) (way : List Text) (part : Text) (disk : Disk) :
    Keeps disk ((makeLast parent way part).run.run disk).2 := by
  unfold makeLast
  rw [Work.run_get_bind]
  cases found : disk.entry? (enter parent part) with
  | none => exact keeps_put found (.inl rfl)
  | some entry =>
      cases entry with
      | directory => exact Keeps.refl disk
      | file content => exact Keeps.refl disk

theorem makeDirectories_keeps (backward : List Text) (disk : Disk) :
    Keeps disk ((makeDirectories backward).run.run disk).2 := by
  induction backward generalizing disk with
  | nil => exact Keeps.refl disk
  | cons part before ih =>
      rw [makeDirectories, Work.run_get_bind]
      cases disk.walk [] before.reverse with
      | ok parent => exact makeLast_keeps parent _ part disk
      | error obstacle =>
          cases obstacle with
          | file => exact Keeps.refl disk
          | nothing =>
              apply Work.related_bind Keeps Keeps.trans (ih disk)
              intro _ reached
              rw [Work.run_get_bind]
              cases reached.walk [] before.reverse with
              | ok parent => exact makeLast_keeps parent _ part reached
              | error _ => exact Keeps.refl reached

theorem checkNames_keeps (way : List Text) (disk : Disk) :
    Keeps disk ((checkNames way).run.run disk).2 := by
  unfold checkNames
  split
  · exact Keeps.refl disk
  · split <;> exact Keeps.refl disk

theorem makeFile_keeps (place : Place) (way : List Text) (disk : Disk) :
    Keeps disk ((makeFile place way).run.run disk).2 := by
  rw [makeFile, Work.run_get_bind]
  cases found : disk.entry? place with
  | none => exact keeps_put found (.inr rfl)
  | some entry =>
      cases entry with
      | directory => exact Keeps.refl disk
      | file content => exact Keeps.refl disk

theorem isSome_read?_of_makeFile {place : Place} {way : List Text} {disk reached : Disk}
    (made : (makeFile place way).run.run disk = (.ok (), reached)) :
    (reached.read? place).isSome := by
  rw [makeFile, Work.run_get_bind] at made
  cases found : disk.entry? place with
  | none =>
      have below : place ≠ [] := by
        intro top
        rw [top] at found
        cases found
      rw [found] at made
      cases made
      have put : (disk.put place (.file "")).read? place = some "" := by
        rw [read?, entry?_put_self below]
      exact Option.isSome_of_eq_some put
  | some entry =>
      rw [found] at made
      cases entry with
      | directory => cases made
      | file content =>
          cases made
          have read : disk.read? place = some content := by rw [read?, found]
          exact Option.isSome_of_eq_some read

def placeOf (path : Text) : Place :=
  (wayOf path).foldl enter []

theorem openFile_keeps (path : Text) (disk : Disk) :
    Keeps disk ((openFile path).run.run disk).2 ∧
      ∀ place, ((openFile path).run.run disk).1 = .ok place →
        place = placeOf path ∧ (((openFile path).run.run disk).2.read? place).isSome := by
  constructor
  · apply Work.related_bind Keeps Keeps.trans (checkNames_keeps _ disk)
    intro _ disk
    apply Work.related_bind Keeps Keeps.trans (makeDirectories_keeps _ disk)
    intro _ disk
    apply Work.related_bind Keeps Keeps.trans (checkNames_keeps _ disk)
    intro _ disk
    apply Work.related_bind Keeps Keeps.trans (makeFile_keeps _ _ disk)
    intro _ disk
    exact Keeps.refl disk
  · intro place opened
    rcases ran : (openFile path).run.run disk with ⟨result, last⟩
    rw [ran] at opened
    cases opened
    obtain ⟨_, _, -, ran⟩ := Work.exists_of_run_bind_ok ran
    obtain ⟨_, _, -, ran⟩ := Work.exists_of_run_bind_ok ran
    obtain ⟨_, _, -, ran⟩ := Work.exists_of_run_bind_ok ran
    obtain ⟨_, _, made, ended⟩ := Work.exists_of_run_bind_ok ran
    cases ended
    exact ⟨rfl, isSome_read?_of_makeFile made⟩

theorem read?_append (place : Place) (text : String) (disk : Disk) (other : Place) :
    (disk.append place text).read? other =
      if other = place then (disk.read? place).map (· ++ text) else disk.read? other := by
  cases found : disk.read? place with
  | none =>
      rw [append, found]
      by_cases same : other = place
      · rw [if_pos same, same, found]
        rfl
      · rw [if_neg same]
  | some content =>
      have below : place ≠ [] := by
        rintro rfl
        cases found
      rw [append, found]
      by_cases same : other = place
      · rw [if_pos same, same, read?, entry?_put_self below]
        rfl
      · rw [if_neg same, read?_put_of_ne same]

theorem isSome_read?_append (place : Place) (text : String) (disk : Disk) (other : Place) :
    ((disk.append place text).read? other).isSome = (disk.read? other).isSome := by
  rw [read?_append]
  by_cases same : other = place
  · rw [if_pos same, same, Option.isSome_map]
  · rw [if_neg same]

theorem textAt_append {disk : Disk} {place : Place} (isFile : (disk.read? place).isSome)
    (text : String) (other : Place) :
    (disk.append place text).textAt other =
      if other = place then disk.textAt other ++ text else disk.textAt other := by
  obtain ⟨content, read⟩ := Option.isSome_iff_exists.mp isFile
  rw [textAt, textAt, read?_append]
  by_cases same : other = place
  · rw [if_pos same, if_pos same, same, read]
    rfl
  · rw [if_neg same, if_neg same]

end TypeLaws.Log.Disk
