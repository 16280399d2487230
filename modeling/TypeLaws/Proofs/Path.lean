import Mathlib.Data.List.Induction
import Mathlib.Logic.Relation
import TypeLaws.Path
import TypeLaws.Proofs.Text.Split

/-!
The normal form of a path. A row of parts below the root may be shortened wherever a part does not
lead anywhere or is taken back by the next one. In whatever order that is done it ends in the same
row, which is the place that is found by following the parts one by one.
-/

namespace TypeLaws.Path

/-- A row of parts below the root, and a shorter one that leads to the same place. -/
inductive Shortens : List Text → List Text → Prop where
  | idle (front back : List Text) {part : Text} (leadsNowhere : part = [] ∨ part = here) :
      Shortens (front ++ part :: back) (front ++ back)
  | takenBack (front back : List Text) {part : Text} (normal : isNormalPart part) :
      Shortens (front ++ part :: above :: back) (front ++ back)
  | aboveRoot (back : List Text) : Shortens (above :: back) back

structure IsNormalForm (row place : List Text) : Prop where
  shortens : Relation.ReflTransGen Shortens row place
  normal : ∀ part ∈ place, isNormalPart part

theorem isNormalPart_iff (part : Text) :
    isNormalPart part ↔ part ≠ [] ∧ part ≠ here ∧ part ≠ above ∧ slash ∉ part := by
  simp [isNormalPart, and_assoc]

theorem step_of_normal {part : Text} (normal : isNormalPart part) (place : List Text) :
    step place part = place ++ [part] := by
  obtain ⟨notEmpty, notDot, notBack, -⟩ := (isNormalPart_iff part).mp normal
  simp [step, notEmpty, notDot, notBack]

theorem foldl_step_of_normal {row : List Text} (normal : ∀ part ∈ row, isNormalPart part)
    (place : List Text) : row.foldl step place = place ++ row := by
  induction row generalizing place with
  | nil => exact (List.append_nil place).symm
  | cons part rest ih =>
      obtain ⟨here, later⟩ := List.forall_mem_cons.mp normal
      rw [List.foldl_cons, step_of_normal here, ih later, List.append_assoc, List.singleton_append]

theorem Shortens.foldl_step {row shorter : List Text} (shortens : Shortens row shorter) :
    row.foldl step [] = shorter.foldl step [] := by
  cases shortens with
  | idle front back leadsNowhere =>
      rw [List.foldl_append, List.foldl_append, List.foldl_cons]
      congr 1
      rcases leadsNowhere with rfl | rfl <;> rfl
  | takenBack front back normal =>
      rw [List.foldl_append, List.foldl_append, List.foldl_cons, List.foldl_cons,
        step_of_normal normal]
      congr 1
      exact List.dropLast_concat
  | aboveRoot => rfl

theorem foldl_step_of_shortens {row shorter : List Text}
    (shortens : Relation.ReflTransGen Shortens row shorter) :
    row.foldl step [] = shorter.foldl step [] := by
  induction shortens with
  | refl => rfl
  | tail before last ih => exact ih.trans last.foldl_step

theorem Shortens.append {row shorter : List Text} (shortens : Shortens row shorter)
    (more : List Text) : Shortens (row ++ more) (shorter ++ more) := by
  cases shortens with
  | idle front back leadsNowhere =>
      rw [List.append_assoc, List.append_assoc, List.cons_append]
      exact .idle front (back ++ more) leadsNowhere
  | takenBack front back normal =>
      rw [List.append_assoc, List.append_assoc, List.cons_append, List.cons_append]
      exact .takenBack front (back ++ more) normal
  | aboveRoot => exact .aboveRoot (shorter ++ more)

theorem normal_step {place : List Text} (normal : ∀ part ∈ place, isNormalPart part)
    {next : Text} (noSlash : slash ∉ next) : ∀ part ∈ step place next, isNormalPart part := by
  intro part member
  unfold step at member
  split at member
  · exact normal part member
  · next leads =>
      split at member
      · exact normal part (List.dropLast_subset place member)
      · next notBack =>
          rcases List.mem_append.mp member with before | last
          · exact normal part before
          · rw [List.mem_singleton.mp last, isNormalPart_iff]
            simp only [Bool.or_eq_true, beq_iff_eq, not_or] at leads notBack
            exact ⟨leads.1, leads.2, notBack, noSlash⟩

theorem normal_foldl_step {place row : List Text} (normal : ∀ part ∈ place, isNormalPart part)
    (noSlash : ∀ part ∈ row, slash ∉ part) :
    ∀ part ∈ row.foldl step place, isNormalPart part := by
  induction row generalizing place with
  | nil => exact normal
  | cons part rest ih =>
      obtain ⟨here, later⟩ := List.forall_mem_cons.mp noSlash
      exact ih (normal_step normal here) later

theorem shortens_step {place : List Text} (normal : ∀ part ∈ place, isNormalPart part)
    (part : Text) : Relation.ReflTransGen Shortens (place ++ [part]) (step place part) := by
  unfold step
  split
  · next idle =>
      have leadsNowhere : part = [] ∨ part = here := by simpa using idle
      have shorter := Shortens.idle place [] leadsNowhere
      rw [List.append_nil] at shorter
      exact .single shorter
  · split
    · next back =>
        rw [eq_of_beq back]
        cases place using List.reverseRecOn with
        | nil => exact .single (.aboveRoot [])
        | append_singleton before last =>
          have shorter := Shortens.takenBack before []
            (normal last (List.mem_append_right before (List.mem_singleton_self last)))
          rw [List.append_nil] at shorter
          rw [List.dropLast_concat, List.append_assoc]
          exact .single shorter
    · exact .refl

theorem shortens_foldl_step {row : List Text} (noSlash : ∀ part ∈ row, slash ∉ part) :
    Relation.ReflTransGen Shortens row (row.foldl step []) := by
  -- Parts are followed from the front, so the row grows at its end.
  induction row using List.reverseRecOn with
  | nil => exact .refl
  | append_singleton before last ih =>
      have earlier := fun part member => noSlash part (List.mem_append_left [last] member)
      have front : Relation.ReflTransGen Shortens (before ++ [last])
          (before.foldl step [] ++ [last]) :=
        (ih earlier).lift (· ++ [last]) fun _ _ shortens => shortens.append [last]
      rw [List.foldl_append]
      exact front.trans (shortens_step (normal_foldl_step (List.forall_mem_nil _) earlier) last)

theorem isNormalForm_iff {row : List Text} (noSlash : ∀ part ∈ row, slash ∉ part)
    (place : List Text) : IsNormalForm row place ↔ place = row.foldl step [] := by
  constructor
  · intro form
    rw [foldl_step_of_shortens form.shortens, foldl_step_of_normal form.normal, List.nil_append]
  · intro followed
    rw [followed]
    exact ⟨shortens_foldl_step noSlash, normal_foldl_step (List.forall_mem_nil _) noSlash⟩

theorem noSlash_of_mem_parts {path part : Text} (member : part ∈ parts path) : slash ∉ part := by
  intro isIn
  exact Text.not_isSeparator_of_mem_splitAll member slash isIn rfl

theorem isNormalForm_foldl_step {directory : List Text}
    (normal : ∀ part ∈ directory, isNormalPart part) (path : Text) :
    IsNormalForm (directory ++ parts path) ((parts path).foldl step directory) := by
  have noSlash : ∀ part ∈ directory ++ parts path, slash ∉ part := by
    intro part member
    rcases List.mem_append.mp member with above | below
    · exact ((isNormalPart_iff part).mp (normal part above)).2.2.2
    · exact noSlash_of_mem_parts below
  rw [isNormalForm_iff noSlash, List.foldl_append, foldl_step_of_normal normal, List.nil_append]

theorem isAbsolute_write (place : List Text) : isAbsolute (write place) := rfl

theorem parts_write {place : List Text} (below : place ≠ [])
    (normal : ∀ part ∈ place, isNormalPart part) : parts (write place) = [] :: place := by
  have noSlash : ∀ part ∈ place, ∀ point ∈ part, ¬(point == slash) = true := by
    intro part member point isIn same
    rw [eq_of_beq same] at isIn
    exact ((isNormalPart_iff part).mp (normal part member)).2.2.2 isIn
  have splits : Text.splitAll (· == slash) ([slash].intercalate place) = place :=
    Text.splitAll_intercalate rfl below noSlash
  rw [parts, write, Text.splitAll, splits]
  cases place with
  | nil => exact absurd rfl below
  | cons part rest => rfl

end TypeLaws.Path
