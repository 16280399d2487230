import TypeLaws.Proofs.Rows
import TypeLaws.Sample.System

/-!
The lawful types of the small type system, and their forms. A form is a type with the order of
properties forgotten, and with the names of records as well where an equivalence ignores them. Two
lawful types will turn out to be equivalent just when they have one form.
-/

namespace TypeLaws

/-- What an equivalence sees of a type. -/
inductive Form where
  | simple (family : Sample.Family) (name : String)
  /-- Properties by name; the name of the record itself may be ignored. -/
  | record (name : Option String) (properties : String → Option Form)
  | other (sample : Sample)

namespace Sample

def seenName (equivalence : Equivalence) (name : String) : Option String :=
  match equivalence with
  | .natural => some name
  | .structural => none

mutual

def form (equivalence : Equivalence) : Sample → Form
  | .simple _ family name => .simple family name
  | .salted _ name _ => .simple .salted name
  | .record _ name properties _ => .record (seenName equivalence name) (forms equivalence properties)
  | .mock label script => .other (.mock label script)
  | .bare label content => .other (.bare label content)

def forms (equivalence : Equivalence) : List (String × Option Sample) → String → Option Form
  | [], _ => none
  | (key, none) :: rest, wanted => if wanted == key then none else forms equivalence rest wanted
  | (key, some sample) :: rest, wanted =>
      if wanted == key then some (form equivalence sample) else forms equivalence rest wanted

end

theorem forms_eq_lookup (equivalence : Equivalence) (rows : List (String × Option Sample))
    (key : String) :
    forms equivalence rows key =
      (rows.lookup key).bind (Option.map (form equivalence)) := by
  induction rows with
  | nil => rfl
  | cons row rest ih =>
      obtain ⟨name, value⟩ := row
      rw [List.lookup_cons]
      cases value with
      | none =>
          rw [forms]
          cases key == name with
          | true => rfl
          | false => exact ih
      | some sample =>
          rw [forms]
          cases key == name with
          | true => rfl
          | false => exact ih

/-- Rows as a record has them: distinct names, and a type that is present under each. -/
structure ProperRows (rows : List (String × Option Sample)) : Prop where
  distinct : (rows.map Prod.fst).Nodup
  present : ∀ key, (key, none) ∉ rows

/-- Each row has a counterpart under its name that has the same form. -/
def Matches (equivalence : Equivalence) (rows others : List (String × Option Sample)) : Prop :=
  ∀ key sample, (key, some sample) ∈ rows →
    ∃ other, others.lookup key = some (some other) ∧
      form equivalence sample = form equivalence other

theorem matches_nil (equivalence : Equivalence) (others : List (String × Option Sample)) :
    Matches equivalence [] others := by
  intro key sample member
  cases member

theorem matches_cons (equivalence : Equivalence) {key : String} {sample : Sample}
    {rest others : List (String × Option Sample)} :
    Matches equivalence ((key, some sample) :: rest) others ↔
      (∃ other, others.lookup key = some (some other) ∧
        form equivalence sample = form equivalence other) ∧ Matches equivalence rest others := by
  constructor
  · intro all
    exact ⟨all key sample List.mem_cons_self, fun key' sample' member =>
      all key' sample' (List.mem_cons_of_mem _ member)⟩
  · rintro ⟨head, tail⟩ key' sample' member
    rcases List.mem_cons.mp member with same | later
    · cases same
      exact head
    · exact tail key' sample' later

namespace ProperRows

variable {rows others : List (String × Option Sample)}

theorem forms_eq_some_iff (proper : ProperRows rows) (equivalence : Equivalence) (key : String)
    (seen : Form) :
    forms equivalence rows key = some seen ↔
      ∃ sample, rows.lookup key = some (some sample) ∧ form equivalence sample = seen := by
  rw [forms_eq_lookup]
  cases found : rows.lookup key with
  | none => simp
  | some value =>
      cases value with
      | none => exact absurd (Rows.mem_of_lookup found) (proper.present key)
      | some sample => simp

theorem keys_subset_of_matches (proper : ProperRows rows) {equivalence : Equivalence}
    (matching : Matches equivalence rows others) :
    rows.map Prod.fst ⊆ others.map Prod.fst := by
  intro key listed
  obtain ⟨⟨name, value⟩, member, rfl⟩ := List.mem_map.mp listed
  cases value with
  | none => exact absurd member (proper.present name)
  | some sample =>
      obtain ⟨other, found, -⟩ := matching name sample member
      exact (Rows.lookup_isSome_iff name).mp (by rw [found]; rfl)

theorem matches_of_forms_eq (proper : ProperRows rows) (otherProper : ProperRows others)
    {equivalence : Equivalence} (same : forms equivalence rows = forms equivalence others) :
    Matches equivalence rows others := by
  intro key sample member
  have seen : forms equivalence others key = some (form equivalence sample) := by
    rw [← same, proper.forms_eq_some_iff]
    exact ⟨sample, Rows.lookup_of_mem proper.distinct member, rfl⟩
  obtain ⟨other, found, sameForm⟩ := (otherProper.forms_eq_some_iff _ _ _).mp seen
  exact ⟨other, found, sameForm.symm⟩

/-- Records have the same properties if they have as many, and those of one match. -/
theorem forms_eq_iff (proper : ProperRows rows) (otherProper : ProperRows others)
    (equivalence : Equivalence) :
    forms equivalence rows = forms equivalence others ↔
      rows.length = others.length ∧ Matches equivalence rows others := by
  constructor
  · intro same
    have matching := proper.matches_of_forms_eq otherProper same
    have converse := otherProper.matches_of_forms_eq proper same.symm
    have perm : (rows.map Prod.fst).Perm (others.map Prod.fst) :=
      (List.perm_ext_iff_of_nodup proper.distinct otherProper.distinct).mpr fun key =>
        ⟨fun member => proper.keys_subset_of_matches matching member,
          fun member => otherProper.keys_subset_of_matches converse member⟩
    have sameLength := perm.length_eq
    rw [List.length_map, List.length_map] at sameLength
    exact ⟨sameLength, matching⟩
  · rintro ⟨sameLength, matching⟩
    funext key
    cases found : rows.lookup key with
    | some value =>
        have member := Rows.mem_of_lookup found
        cases value with
        | none => exact absurd member (proper.present key)
        | some sample =>
            obtain ⟨other, otherFound, sameForm⟩ := matching key sample member
            rw [forms_eq_lookup, forms_eq_lookup, found, otherFound]
            exact congrArg some sameForm
    | none =>
        have subset := Rows.keys_subset_of_length proper.distinct sameLength
          (proper.keys_subset_of_matches matching)
        have absent : key ∉ others.map Prod.fst := by
          intro member
          have present := (Rows.lookup_isSome_iff key).mpr (subset member)
          rw [found] at present
          cases present
        have otherAbsent : others.lookup key = none := by
          rw [← Option.not_isSome_iff_eq_none, Rows.lookup_isSome_iff]
          exact absent
        rw [forms_eq_lookup, forms_eq_lookup, found, otherAbsent]

end ProperRows

def Family.isLawful : Family → Bool
  | .plain => true
  | .number => true
  | .string => true
  | .boolean => true
  | .unknown => true
  | .bottom => true
  | .truthyNumber => true
  | .colliding => true
  | _ => false

/-- A record is lawful if its properties have distinct names and are present lawful types. -/
inductive Lawful : Sample → Prop where
  | simple (label : Label) (family : Family) (name : String) :
      family.isLawful = true → (∀ fixed, family.fixedName? = some fixed → name = fixed) →
      Lawful (.simple label family name)
  | record (label : Label) (name : String) (properties : List (String × Option Sample))
      (isLiteral : Value) :
      ProperRows properties →
      (∀ key sample, (key, some sample) ∈ properties → Lawful sample) →
      Lawful (.record label name properties isLiteral)

def LawfulValue (value : Option Sample) : Prop :=
  ∀ sample, value = some sample → Lawful sample

end Sample

end TypeLaws
