import Mathlib
import TypeLaws.Proofs.Settings.Acceptance
import TypeLaws.Proofs.Work

/-!
What expansion does to its environment. Only a modifier that assigns changes a variable, and only
one that has no text yet; so what refused settings leave behind can be read off their paths.
-/

namespace TypeLaws.Settings

/-! ### Assignments in a template -/

/-- A variable with a modifier that assigns. With an indirection it may have a text of its own. -/
structure Assignee where
  indirect : Bool
  name : Text
  deriving DecidableEq

mutual

def Piece.assignees : Piece → List Assignee
  | .literal _ => []
  | .named _ _ => []
  | .modified indirect name modifier operand =>
      Template.assignees operand ++ if modifier = .assign then [⟨indirect, name⟩] else []
  | .size _ => []
  | .guardedSize _ operand => Template.assignees operand
  | .defect _ => []

def Template.assignees : List Piece → List Assignee
  | [] => []
  | piece :: rest => Piece.assignees piece ++ Template.assignees rest

end

def assignees (text : Text) : List Assignee :=
  Template.assignees (Template.read text)

/-! ### Environments that differ by assignments -/

def IsBlank (env : Environment) (name : Text) : Prop :=
  env.get? name = none ∨ env.get? name = some []

/-- One environment has become another by assignments to some variables. -/
structure Settled (assigned : List Assignee) (before after : Environment) : Prop where
  same : assigned = [] → after = before
  changed : ∀ name, after.get? name ≠ before.get? name →
    ⟨true, name⟩ ∈ assigned ∨ ⟨false, name⟩ ∈ assigned ∧ IsBlank before name

namespace Settled

variable {assigned others : List Assignee} {first second third : Environment}

theorem refl (assigned : List Assignee) (env : Environment) : Settled assigned env env :=
  ⟨fun _ => rfl, fun _ differs => absurd rfl differs⟩

theorem trans (before : Settled assigned first second) (after : Settled assigned second third) :
    Settled assigned first third := by
  constructor
  · intro nothing
    rw [after.same nothing, before.same nothing]
  · intro name differs
    by_cases kept : second.get? name = first.get? name
    · have later := after.changed name (kept ▸ differs)
      rw [IsBlank, kept] at later
      exact later
    · exact before.changed name kept

theorem mono (settled : Settled assigned first second) (subset : assigned ⊆ others) :
    Settled others first second := by
  constructor
  · intro nothing
    rw [nothing] at subset
    exact settled.same (List.eq_nil_of_subset_nil subset)
  · intro name differs
    rcases settled.changed name differs with isIndirect | ⟨isDirect, blank⟩
    · exact .inl (subset isIndirect)
    · exact .inr ⟨subset isDirect, blank⟩

theorem assign {indirect : Bool} {name : Text} (settled : Settled assigned first second)
    (member : ⟨indirect, name⟩ ∈ assigned) (blank : indirect = false → IsBlank first name)
    (text : Text) : Settled assigned first (second.assign name text) := by
  constructor
  · intro nothing
    rw [nothing] at member
    cases member
  · intro other differs
    by_cases same : other = name
    · subst same
      cases indirect with
      | true => exact .inl member
      | false => exact .inr ⟨member, blank rfl⟩
    · rw [Environment.get?_assign_other second text same] at differs
      exact settled.changed other differs

end Settled

namespace Expansion

/-! ### Work that assigns nothing -/

theorem find_cases (indirect : Bool) (name : Text) (env : Environment) :
    (∃ fault, (find indirect name).run.run env = (.error fault, env)) ∨
      ∃ found, (find indirect name).run.run env = (.ok found, env) ∧
        (indirect = false → found = env.get? name) := by
  unfold find
  rw [Work.run_get_bind]
  cases indirect with
  | false => exact .inr ⟨_, rfl, fun _ => rfl⟩
  | true =>
      cases env.get? name with
      | none => exact .inl ⟨_, rfl⟩
      | some target => exact .inr ⟨_, rfl, nofun⟩

/-- A text that is looked up is empty only if its variable is blank, or names another one. -/
theorem findOrEmpty_cases (indirect : Bool) (name : Text) (env : Environment) :
    (∃ fault, (findOrEmpty indirect name).run.run env = (.error fault, env)) ∨
      ∃ text, (findOrEmpty indirect name).run.run env = (.ok text, env) ∧
        (indirect = false → text = [] → IsBlank env name) := by
  unfold findOrEmpty
  rw [Work.run_bind]
  rcases find_cases indirect name env with ⟨fault, ran⟩ | ⟨found, ran, direct⟩
  · rw [ran]
    exact .inl ⟨fault, rfl⟩
  · rw [ran]
    refine .inr ⟨found.getD [], rfl, ?_⟩
    intro isDirect empty
    rw [IsBlank, ← direct isDirect]
    cases found with
    | none => exact .inl rfl
    | some text => exact .inr (congrArg some empty)

theorem recover_keeps (fault : Fault) (env : Environment) :
    ((recover fault).run.run env).2 = env := by
  unfold recover
  rw [Work.run_get_bind]
  cases env.get? fallbackName <;> rfl

theorem lookup_keeps (strict indirect : Bool) (name : Text) (env : Environment) :
    ((lookup strict indirect name).run.run env).2 = env := by
  unfold lookup
  rw [Work.run_bind]
  rcases find_cases indirect name env with ⟨fault, ran⟩ | ⟨found, ran, -⟩
  · rw [ran]
  · rw [ran]
    cases found with
    | some text => rfl
    | none =>
        cases strict with
        | true => exact recover_keeps _ env
        | false => rfl

theorem lengthOf_keeps (name token : Text) (env : Environment) :
    ((lengthOf name token).run.run env).2 = env := by
  unfold lengthOf
  dsimp only
  split <;> split <;> rfl

theorem partOf_keeps (name text operand : Text) (env : Environment) :
    ((partOf name text operand).run.run env).2 = env := by
  unfold partOf
  dsimp only
  split
  · rfl
  · next separator token behind =>
      split
      · rfl
      · have kept := lengthOf_keeps name token env
        rw [Work.run_bind]
        rcases ran : (lengthOf name token).run.run env with ⟨result, reached⟩
        rw [ran] at kept
        rcases result with fault | length | length
        · exact kept
        · exact kept
        · exact kept

theorem assign_cases (name text : Text) (env : Environment) :
    (∃ fault, (assign name text).run.run env = (.error fault, env)) ∨
      (assign name text).run.run env = (.ok (), env.assign name text) := by
  by_cases unfit : !text.isEncodable
  · refine .inl ⟨.unencodable text, ?_⟩
    simp only [assign, if_pos unfit]
    rfl
  · by_cases held : text.contains (.char '\x00')
    · refine .inl ⟨.nullCharacter, ?_⟩
      simp only [assign, if_neg unfit, if_pos held]
      rfl
    · refine .inr ?_
      simp only [assign, if_neg unfit, if_neg held]
      rfl

/-! ### Filling in -/

theorem applyModifier_settles {indirect : Bool} {name text : Text} {assigned : List Assignee}
    {first env : Environment} {modifier : Modifier} (operand : Text)
    (settled : Settled assigned first env)
    (member : modifier = .assign → ⟨indirect, name⟩ ∈ assigned)
    (blank : indirect = false → text = [] → IsBlank first name) :
    Settled assigned first ((applyModifier modifier name text operand).run.run env).2 := by
  cases modifier with
  | default => exact settled
  | alternative => exact settled
  | assign =>
      dsimp only [applyModifier]
      split
      · next empty =>
          have blankFirst := fun direct => blank direct (List.isEmpty_iff.mp empty)
          rw [Work.run_bind]
          rcases assign_cases name operand env with ⟨fault, ran⟩ | ran
          · rw [ran]
            exact settled
          · rw [ran]
            exact settled.assign (member rfl) blankFirst operand
      · exact settled
  | require =>
      dsimp only [applyModifier]
      split
      · rw [recover_keeps]
        exact settled
      · exact settled
  | part =>
      dsimp only [applyModifier]
      split
      · exact settled
      · rw [partOf_keeps]
        exact settled

mutual

theorem fillPiece_settles (strict : Bool) : ∀ (piece : Piece) (env : Environment),
    Settled piece.assignees env ((fillPiece strict piece).run.run env).2
  | .literal c, env => .refl _ env
  | .named indirect name, env => by
      rw [fillPiece, lookup_keeps]
      exact .refl _ env
  | .modified indirect name modifier operand, env => by
      rw [fillPiece, Work.run_bind]
      rcases findOrEmpty_cases indirect name env with ⟨fault, ran⟩ | ⟨text, ran, blank⟩
      · rw [ran]
        exact .refl _ env
      · rw [ran]
        dsimp only
        have within := (fill_settles false operand env).mono (List.subset_append_left
          (Template.assignees operand) (if modifier = .assign then [⟨indirect, name⟩] else []))
        rw [Work.run_bind]
        rcases filled : (fill false operand).run.run env with ⟨result, reached⟩
        rw [filled] at within
        cases result with
        | error fault => exact within
        | ok operandText =>
            apply applyModifier_settles operandText within _ blank
            intro assigns
            rw [if_pos assigns]
            exact List.mem_append_right _ (List.mem_singleton_self _)
  | .size name, env => by
      rw [fillPiece, Work.run_bind]
      rcases findOrEmpty_cases false name env with ⟨fault, ran⟩ | ⟨text, ran, -⟩
      · rw [ran]
        exact .refl _ env
      · rw [ran]
        exact .refl _ env
  | .guardedSize name operand, env => by
      rw [fillPiece, Work.run_bind]
      rcases findOrEmpty_cases false name env with ⟨fault, ran⟩ | ⟨text, ran, -⟩
      · rw [ran]
        exact .refl _ env
      · rw [ran]
        apply Work.related_bind (Settled _) Settled.trans (fill_settles false operand env)
        intro operandText reached
        split <;> exact .refl _ reached
  | .defect defect, env => .refl _ env

theorem fill_settles (strict : Bool) : ∀ (template : List Piece) (env : Environment),
    Settled (Template.assignees template) env ((fill strict template).run.run env).2
  | [], env => .refl _ env
  | piece :: rest, env => by
      rw [fill]
      apply Work.related_bind (Settled (Template.assignees (piece :: rest))) Settled.trans
      · exact (fillPiece_settles strict piece env).mono (List.subset_append_left _ _)
      · intro front reached
        apply Work.related_bind (Settled (Template.assignees (piece :: rest))) Settled.trans
        · exact (fill_settles strict rest reached).mono (List.subset_append_right _ _)
        · intro back last
          exact .refl _ last

end

end Expansion

theorem expand_settles (text : Text) (env : Environment) :
    Settled (assignees text) env (expand text env).2 :=
  Expansion.fill_settles true (Template.read text) env

end TypeLaws.Settings

namespace TypeLaws.Config

open Settings (Assignee Settled IsBlank)

/-! ### Settings that are refused -/

def pathAssignees (path : Option Text) : List Assignee :=
  path.elim [] Settings.assignees

def assignees (fields : Config) : List Assignee :=
  pathAssignees fields.debugLog ++ pathAssignees (fields.junit.map ReportTarget.path)

theorem leftBy_settles (path : Option Text) (env : Environment) :
    Settled (pathAssignees path) env (leftBy path env) := by
  cases path with
  | none => exact .refl _ env
  | some text => exact Settings.expand_settles text env

theorem leftBy_both_settles (fields : Config) (env : Environment) :
    Settled fields.assignees env
      (leftBy (fields.junit.map ReportTarget.path) (leftBy fields.debugLog env)) := by
  have front := (leftBy_settles fields.debugLog env).mono
    (List.subset_append_left _ (pathAssignees (fields.junit.map ReportTarget.path)))
  have back := (leftBy_settles (fields.junit.map ReportTarget.path)
    (leftBy fields.debugLog env)).mono (List.subset_append_right (pathAssignees fields.debugLog) _)
  exact front.trans back

theorem make_refused_of_validates {entries : Entries} {fields : Config} {env : Environment}
    {rejection : Rejection} (valid : Validates entries fields)
    (refused : (make entries env).result = .error rejection) :
    (rejection = rejectWhole (.unexpandable (refusedPaths fields env)) ∧
        (make entries env).settings = entries ∨
      rejection = rejectWhole .needsCollector ∧
        (make entries env).settings = renewed (expanded fields env) entries) ∧
      (make entries env).env =
        leftBy (fields.junit.map ReportTarget.path) (leftBy fields.debugLog env) := by
  by_cases fails : Fails fields.debugLog env ∨
      Fails (fields.junit.map ReportTarget.path) (leftBy fields.debugLog env)
  · rw [make_of_fails valid fails] at refused ⊢
    cases refused
    exact ⟨.inl ⟨rfl, rfl⟩, rfl⟩
  · rw [make_of_expands valid (fun fault => fails (.inl fault)) fun fault => fails (.inr fault)]
      at refused ⊢
    dsimp only at refused
    split at refused
    · cases refused
    · cases refused
      exact ⟨.inr ⟨rfl, rfl⟩, rfl⟩

/-- No target among the settings is an object. -/
def HasNoTarget (entries : Entries) : Prop :=
  ∀ entry ∈ entries, ∀ target, entry.2 ≠ .target target

theorem renewed_of_hasNoTarget {entries : Entries} (copied : HasNoTarget entries) (config : Config) :
    renewed config entries = entries := by
  have same : renewed config entries = entries.map id := by
    refine List.map_congr_left fun (key, setting) isIn => ?_
    cases setting with
    | target target => exact absurd rfl (copied _ isIn target)
    | _ => rfl
  rw [same, List.map_id]

/--
Settings that are refused before their paths are expanded leave everything as it was. After that the
expansions of both paths stay done, whichever of them failed and even if neither did; and they change
nothing but blank variables that are assigned in a path, or those of an indirection. The settings
themselves change only if both paths are expanded and a target is an object, which keeps the path that
was found. Without such an assignment and such an object the next attempt goes as if it were the first.
-/
theorem refused_settings_only_assign {entries : Entries} {env : Environment}
    {rejection : Rejection} (refused : (make entries env).result = .error rejection) :
    let left := make entries env
    ((¬∃ fields, Validates entries fields) → left.env = env ∧ left.settings = entries) ∧
      (∀ fields, Validates entries fields →
        (rejection = rejectWhole (.unexpandable (refusedPaths fields env)) ∧
            left.settings = entries ∨
          rejection = rejectWhole .needsCollector ∧
            left.settings = renewed (expanded fields env) entries) ∧
        left.env = leftBy (fields.junit.map ReportTarget.path) (leftBy fields.debugLog env) ∧
        ∀ name, left.env.get? name ≠ env.get? name →
          ⟨true, name⟩ ∈ fields.assignees ∨ ⟨false, name⟩ ∈ fields.assignees ∧ IsBlank env name) ∧
      (HasNoTarget entries → left.settings = entries) ∧
      ((∀ fields, Validates entries fields → fields.assignees = []) →
        left.env = env ∧
          (HasNoTarget entries → ∀ correct : Entries → Entries,
            make (correct left.settings) left.env = make (correct entries) env)) := by
  intro left
  have early : (¬∃ fields, Validates entries fields) → left.env = env ∧ left.settings = entries := by
    intro invalid
    obtain ⟨_, made⟩ := make_of_not_validates invalid
    exact ⟨congrArg Attempt.env (made env), congrArg Attempt.settings (made env)⟩
  have kept : HasNoTarget entries → left.settings = entries := by
    intro copied
    by_cases valid : ∃ fields, Validates entries fields
    · obtain ⟨fields, valid⟩ := valid
      rcases (make_refused_of_validates valid refused).1 with ⟨-, same⟩ | ⟨-, isRenewed⟩
      · exact same
      · exact isRenewed.trans (renewed_of_hasNoTarget copied _)
    · exact (early valid).2
  refine ⟨early, ?_, kept, ?_⟩
  · intro fields valid
    obtain ⟨reason, isLeft⟩ := make_refused_of_validates valid refused
    refine ⟨reason, isLeft, ?_⟩
    intro name differs
    apply (leftBy_both_settles fields env).changed name
    rwa [← isLeft]
  · intro nothing
    have same : left.env = env := by
      by_cases valid : ∃ fields, Validates entries fields
      · obtain ⟨fields, valid⟩ := valid
        have isLeft := (make_refused_of_validates valid refused).2
        exact isLeft.trans ((leftBy_both_settles fields env).same (nothing fields valid))
      · exact (early valid).1
    refine ⟨same, ?_⟩
    intro copied correct
    rw [same, kept copied]

theorem Validates.unique {entries : Entries} {fields others : Config}
    (valid : Validates entries fields) (alsoValid : Validates entries others) : fields = others := by
  have read := ofEntries_eq_ok_iff.mpr valid
  rw [ofEntries_eq_ok_iff.mpr alsoValid] at read
  exact (Except.ok.inj read).symm

/-- An attempt that assigns one variable and one that assigns none, with a reporter that raises. -/
theorem refused_settings_of_one_assignment :
    let env := Environment.empty.assign "ROOT" "logs"
    let assigning := (make (withPaths "raise" "$\x7bX:=v\x7d" "$ROOT/r") env).env
    let plain := (make (withPaths "raise" "$\x7bX:-v\x7d" "$ROOT/r") env).env
    (∀ name, name ≠ Text.ofString "X" → assigning.get? name = env.get? name) ∧ plain = env := by
  intro env assigning plain
  constructor
  · have refused : (make (withPaths "raise" "$\x7bX:=v\x7d" "$ROOT/r") env).result =
        .error (rejectWhole .needsCollector) := by cbv
    obtain ⟨-, -, changed⟩ := (refused_settings_only_assign refused).2.1 _
      (withPaths_validates "$\x7bX:=v\x7d" "$ROOT/r").2
    have assigned : assignees ⟨.raising, some "$\x7bX:=v\x7d", false,
        some ⟨"$ROOT/r", JUnit.defaultSuite⟩⟩ = [⟨false, "X"⟩] := by cbv
    intro name other
    apply Decidable.byContradiction
    intro differs
    have among := changed name differs
    rw [assigned] at among
    simp [other] at among
  · have refused : (make (withPaths "raise" "$\x7bX:-v\x7d" "$ROOT/r") env).result =
        .error (rejectWhole .needsCollector) := by cbv
    apply ((refused_settings_only_assign refused).2.2.2 _).1
    intro fields valid
    rw [valid.unique (withPaths_validates "$\x7bX:-v\x7d" "$ROOT/r").2]
    cbv

def collecting (entries : Entries) : Entries :=
  (.text "reporter", .value (.text "collect")) :: entries

/--
The first attempt is refused and leaves a variable behind, with which the second one is accepted; by
itself the second one is refused. And a target that is an object is expanded by the attempt that is
refused, so that it is expanded once more when the attempt is repeated with another reporter.
-/
theorem refused_settings_leave_assignment :
    let first : Entries := [(.text "debug_log", .value (.text "$\x7bX:=v\x7d")),
      (.text "junit", .value (.dict [(.text "path", .text "p")]))]
    let second : Entries := [(.text "debug_log", .value (.text "$X"))]
    let handed : Entries := [(.text "junit", .target ⟨"$X", "s"⟩)]
    let env := Environment.empty.assign "X" "$Y"
    ((make first .empty).result = .error (rejectWhole .needsCollector) ∧
      (make first .empty).env = Environment.empty.assign "X" "v" ∧
      (Environment.empty.assign "X" "v").get? "X" ≠ Environment.empty.get? "X" ∧
      (make second (make first .empty).env).result = .ok ⟨.raising, some "v", false, none⟩ ∧
      (make second .empty).result =
        .error (rejectWhole (.unexpandable [("debug_log", Text.ofString "$X")]))) ∧
    (make handed env).result = .error (rejectWhole .needsCollector) ∧
      (make handed env).env = env ∧
      (make (collecting (make handed env).settings) env).result =
        .error (rejectWhole (.unexpandable [("junit.path", Text.ofString "$Y")])) ∧
      (make (collecting handed) env).result = .ok ⟨.collecting, none, false, some ⟨"$Y", "s"⟩⟩ := by
  intro first second handed env
  refine ⟨⟨?_, ?_, by decide, ?_, ?_⟩, ?_, ?_, ?_, ?_⟩ <;> cbv

end TypeLaws.Config
