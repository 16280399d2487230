import TypeLaws.Proofs.Equality.Test
import TypeLaws.Proofs.Sample.Form

/-!
On lawful types, what one says about being equal to another, or of its shape, is a truth value that
holds just when the two have one form. Natural equality asks either side of a pair of properties,
whichever class is refined, so its induction carries both directions at once.
-/

namespace TypeLaws.Sample

/-! ### Natural equality -/

/-- The first says whether it is equal to the second, and it is just when they have one form. -/
def Declares (a b : Sample) : Prop :=
  ∃ answer : Bool, a.declares (some b) = .ok (.bool answer) ∧
    (answer = true ↔ form .natural a = form .natural b)

theorem Lawful.isFake {sample : Sample} (lawful : Lawful sample) : sample.isFake = true := by
  cases lawful with
  | simple label family name => rfl
  | record label name properties isLiteral => rfl

theorem Lawful.identical_eq_false {a : Sample} (lawful : Lawful a) (b : Sample) :
    a.identical b = false := by
  cases lawful with
  | simple label family name => cases b <;> rfl
  | record label name properties isLiteral => cases b <;> rfl

theorem declares_simple {label : Label} {family : Family} {name : String}
    (isLawful : family.isLawful = true) (p : Option Sample) :
    (Sample.simple label family name).declares p =
      .ok ((Sample.simple label family name).declaresByName p) := by
  rw [declares]
  · intro lopsided
    rw [lopsided] at isLawful
    cases isLawful
  · intro nullIntolerant
    rw [nullIntolerant] at isLawful
    cases isLawful

theorem declares_simple_lawful {label : Label} {family : Family} {name : String} {b : Sample}
    (isLawful : family.isLawful = true) (lawful : Lawful b) :
    Declares (.simple label family name) b := by
  unfold Declares
  rw [declares_simple isLawful, declaresByName, lawful.isFake, if_pos rfl]
  refine ⟨_, rfl, ?_⟩
  rw [Bool.and_eq_true, decide_eq_true_iff, decide_eq_true_iff]
  cases lawful with
  | simple label' family' name' isLawful' =>
      change (some family = some family' ∧ name = name') ↔ Form.simple _ _ = Form.simple _ _
      rw [Option.some_inj, Form.simple.injEq]
  | record label' name' others isLiteral' =>
      change (some family = some .record ∧ name = name') ↔ Form.simple _ _ = Form.record _ _
      constructor
      · rintro ⟨same, -⟩
        cases same
        cases isLawful
      · intro impossible
        cases impossible

theorem declares_record_simple {label label' : Label} {name name' : String} {family : Family}
    {rows : List (String × Option Sample)} {isLiteral : Value} :
    Declares (.record label name rows isLiteral) (.simple label' family name') := by
  refine ⟨false, ?_, iff_of_false Bool.false_ne_true ?_⟩
  · rw [declares]
    · rfl
    · intro _ _ _ _ impossible
      cases impossible
  · intro impossible
    cases impossible

theorem equalProperty_iff {a b : Sample} (lawful : Lawful a) (left : Declares a b)
    (right : Declares b a) :
    ∃ equal : Bool, equalProperty (some a) (some b) = .ok equal ∧
      (equal = true ↔ form .natural a = form .natural b) := by
  obtain ⟨leftAnswer, leftGiven, leftIff⟩ := left
  obtain ⟨rightAnswer, rightGiven, rightIff⟩ := right
  have distinct : identicalOrAbsent (some a) (some b) = false := lawful.identical_eq_false b
  rw [equalProperty, distinct, leftGiven, rightGiven]
  cases b.refines a with
  | true => exact ⟨rightAnswer, rfl, rightIff.trans eq_comm⟩
  | false => exact ⟨leftAnswer, rfl, leftIff⟩

/-- Rows are compared one by one; the first that has no equal counterpart settles it. -/
theorem equalProperties_iff {rows others : List (String × Option Sample)}
    (present : ∀ key, (key, none) ∉ rows) (otherProper : ProperRows others)
    (agree : ∀ key a b, (key, some a) ∈ rows → (key, some b) ∈ others →
      Lawful a ∧ Declares a b ∧ Declares b a) :
    ∃ equal : Bool, equalProperties rows others = .ok equal ∧
      (equal = true ↔ Matches .natural rows others) := by
  induction rows with
  | nil =>
      refine ⟨true, by rw [equalProperties], ?_⟩
      exact ⟨fun _ => matches_nil _ _, fun _ => rfl⟩
  | cons row rest ih =>
      obtain ⟨key, value⟩ := row
      cases value with
      | none => exact absurd List.mem_cons_self (present key)
      | some a =>
          obtain ⟨restEqual, restGiven, restIff⟩ := ih
            (fun key' member => present key' (List.mem_cons_of_mem _ member))
            (fun key' a' b' member => agree key' a' b' (List.mem_cons_of_mem _ member))
          rw [equalProperties, matches_cons]
          split
          · rename_i missing
            refine ⟨false, rfl, ?_⟩
            rw [missing]
            simp
          · rename_i value found
            have member := Rows.mem_of_lookup found
            cases value with
            | none => exact absurd member (otherProper.present key)
            | some b =>
                obtain ⟨lawful, left, right⟩ := agree key a b List.mem_cons_self member
                obtain ⟨equal, given, equalIff⟩ := equalProperty_iff lawful left right
                rw [given]
                cases equal with
                | true =>
                    have same := equalIff.mp rfl
                    exact ⟨restEqual, restGiven, restIff.trans
                      ⟨fun tail => ⟨⟨b, found, same⟩, tail⟩, fun both => both.2⟩⟩
                | false =>
                    refine ⟨false, rfl, iff_of_false Bool.false_ne_true ?_⟩
                    rintro ⟨⟨other, otherFound, same⟩, -⟩
                    rw [found] at otherFound
                    cases otherFound
                    have equal : false = true := equalIff.mpr same
                    cases equal

theorem declares_record {label label' : Label} {name name' : String}
    {rows others : List (String × Option Sample)} {isLiteral isLiteral' : Value}
    (proper : ProperRows rows) (otherProper : ProperRows others)
    (agree : ∀ key a b, (key, some a) ∈ rows → (key, some b) ∈ others →
      Lawful a ∧ Declares a b ∧ Declares b a) :
    Declares (.record label name rows isLiteral) (.record label' name' others isLiteral') := by
  have formIff : form .natural (.record label name rows isLiteral) =
      form .natural (.record label' name' others isLiteral') ↔
        (name = name' ∧ rows.length = others.length) ∧ Matches .natural rows others := by
    rw [form, form, Form.record.injEq, proper.forms_eq_iff otherProper, and_assoc]
    exact and_congr_left fun _ => Option.some_inj
  obtain ⟨equal, given, equalIff⟩ := equalProperties_iff proper.present otherProper agree
  unfold Declares
  rw [declares, formIff]
  have test : (decide (name = name') && decide (rows.length = others.length)) = true ↔
      name = name' ∧ rows.length = others.length := by
    rw [Bool.and_eq_true, decide_eq_true_iff, decide_eq_true_iff]
  by_cases comparable : name = name' ∧ rows.length = others.length
  · rw [if_pos (test.mpr comparable), given]
    exact ⟨equal, rfl, equalIff.trans (and_iff_right comparable).symm⟩
  · rw [if_neg (mt test.mp comparable)]
    refine ⟨false, rfl, iff_of_false Bool.false_ne_true ?_⟩
    intro both
    exact comparable both.1

theorem declares_of_lawful {a b : Sample} (lawful : Lawful a) (otherLawful : Lawful b) :
    Declares a b ∧ Declares b a := by
  induction lawful generalizing b with
  | simple label family name isLawful named =>
      have whole : Lawful (.simple label family name) := .simple label family name isLawful named
      refine ⟨declares_simple_lawful isLawful otherLawful, ?_⟩
      cases otherLawful with
      | simple label' family' name' isLawful' => exact declares_simple_lawful isLawful' whole
      | record label' name' others isLiteral' => exact declares_record_simple
  | record label name rows isLiteral proper lawfulRows ih =>
      have whole : Lawful (.record label name rows isLiteral) :=
        .record label name rows isLiteral proper lawfulRows
      cases otherLawful with
      | simple label' family' name' isLawful' =>
          exact ⟨declares_record_simple, declares_simple_lawful isLawful' whole⟩
      | record label' name' others isLiteral' otherProper otherLawful =>
          constructor
          · apply declares_record proper otherProper
            intro key a b member otherMember
            have both := ih key a member (otherLawful key b otherMember)
            exact ⟨lawfulRows key a member, both⟩
          · apply declares_record otherProper proper
            intro key a b member otherMember
            have both := ih key b otherMember (otherLawful key a member)
            exact ⟨otherLawful key a member, both.2, both.1⟩

/-! ### Structural equivalence -/

/-- The first says whether the second has its shape, and it has just when they have one form. -/
def Equates (a b : Sample) : Prop :=
  ∃ answer : Bool, a.isEquivalentTo (some b) = .ok (.bool answer) ∧
    (answer = true ↔ form .structural a = form .structural b)

theorem equates_simple {label : Label} {family : Family} {name : String} {b : Sample}
    (isLawful : family.isLawful = true) (lawful : Lawful b) :
    Equates (.simple label family name) b := by
  unfold Equates
  rw [isEquivalentTo, isEquivalentTo.sameClassAndName, lawful.isFake]
  refine ⟨_, rfl, ?_⟩
  rw [Bool.and_eq_true, Bool.and_eq_true, decide_eq_true_iff, decide_eq_true_iff]
  cases lawful with
  | simple label' family' name' isLawful' =>
      change ((true = true ∧ some family = some family') ∧ name = name') ↔
        Form.simple _ _ = Form.simple _ _
      rw [and_iff_right rfl, Option.some_inj, Form.simple.injEq]
  | record label' name' others isLiteral' =>
      constructor
      · rintro ⟨⟨-, same⟩, -⟩
        cases same
        cases isLawful
      · intro impossible
        cases impossible

theorem equates_record_simple {label label' : Label} {name name' : String} {family : Family}
    {rows : List (String × Option Sample)} {isLiteral : Value} :
    Equates (.record label name rows isLiteral) (.simple label' family name') := by
  refine ⟨false, ?_, iff_of_false Bool.false_ne_true ?_⟩
  · rw [isEquivalentTo]
    intro _ _ _ _ impossible
    cases impossible
  · intro impossible
    cases impossible

theorem sameKeys_iff (rows others : List (String × Option Sample)) :
    sameKeys rows others = true ↔
      rows.length = others.length ∧ rows.map Prod.fst ⊆ others.map Prod.fst := by
  rw [sameKeys, Bool.and_eq_true, beq_iff_eq, List.all_eq_true]
  apply and_congr_right
  intro _
  constructor
  · intro all key listed
    obtain ⟨row, member, rfl⟩ := List.mem_map.mp listed
    exact (Rows.lookup_isSome_iff row.1).mp (all row member)
  · intro subset row member
    exact (Rows.lookup_isSome_iff row.1).mpr (subset (List.mem_map_of_mem member))

theorem equivalentProperties_iff {rows others : List (String × Option Sample)}
    (present : ∀ key, (key, none) ∉ rows) (otherProper : ProperRows others)
    (subset : rows.map Prod.fst ⊆ others.map Prod.fst)
    (agree : ∀ key a b, (key, some a) ∈ rows → (key, some b) ∈ others → Equates a b) :
    ∃ equivalent : Bool, equivalentProperties rows others = .ok equivalent ∧
      (equivalent = true ↔ Matches .structural rows others) := by
  induction rows with
  | nil => exact ⟨true, rfl, fun _ => matches_nil _ _, fun _ => rfl⟩
  | cons row rest ih =>
      obtain ⟨key, value⟩ := row
      cases value with
      | none => exact absurd List.mem_cons_self (present key)
      | some a =>
          obtain ⟨restEquivalent, restGiven, restIff⟩ := ih
            (fun key' member => present key' (List.mem_cons_of_mem _ member))
            (fun key' listed => subset (List.mem_cons_of_mem _ listed))
            (fun key' a' b' member => agree key' a' b' (List.mem_cons_of_mem _ member))
          obtain ⟨value, found⟩ := Option.isSome_iff_exists.mp
            ((Rows.lookup_isSome_iff key).mpr (subset List.mem_cons_self))
          have member := Rows.mem_of_lookup found
          cases value with
          | none => exact absurd member (otherProper.present key)
          | some b =>
              obtain ⟨answer, given, answerIff⟩ := agree key a b List.mem_cons_self member
              rw [equivalentProperties, matches_cons, found, Option.getD_some, given]
              cases answer with
              | true =>
                  have same := answerIff.mp rfl
                  exact ⟨restEquivalent, restGiven, restIff.trans
                    ⟨fun tail => ⟨⟨b, rfl, same⟩, tail⟩, fun both => both.2⟩⟩
              | false =>
                  refine ⟨false, rfl, iff_of_false Bool.false_ne_true ?_⟩
                  rintro ⟨⟨other, otherFound, same⟩, -⟩
                  cases otherFound
                  have answer : false = true := answerIff.mpr same
                  cases answer

theorem equates_record {label label' : Label} {name name' : String}
    {rows others : List (String × Option Sample)} {isLiteral isLiteral' : Value}
    (proper : ProperRows rows) (otherProper : ProperRows others)
    (agree : ∀ key a b, (key, some a) ∈ rows → (key, some b) ∈ others → Equates a b) :
    Equates (.record label name rows isLiteral) (.record label' name' others isLiteral') := by
  have formIff : form .structural (.record label name rows isLiteral) =
      form .structural (.record label' name' others isLiteral') ↔
        rows.length = others.length ∧ Matches .structural rows others := by
    rw [form, form, Form.record.injEq, proper.forms_eq_iff otherProper]
    exact and_iff_right rfl
  unfold Equates
  rw [isEquivalentTo, formIff]
  cases same : sameKeys rows others with
  | true =>
      obtain ⟨sameLength, subset⟩ := (sameKeys_iff rows others).mp same
      obtain ⟨equivalent, given, equivalentIff⟩ :=
        equivalentProperties_iff proper.present otherProper subset agree
      rw [if_pos rfl, given]
      exact ⟨equivalent, rfl, equivalentIff.trans (and_iff_right sameLength).symm⟩
  | false =>
      refine ⟨false, rfl, iff_of_false Bool.false_ne_true ?_⟩
      rintro ⟨sameLength, matching⟩
      have sameKeys : sameKeys rows others = true :=
        (sameKeys_iff rows others).mpr ⟨sameLength, proper.keys_subset_of_matches matching⟩
      rw [same] at sameKeys
      cases sameKeys

theorem equates_of_lawful {a b : Sample} (lawful : Lawful a) (otherLawful : Lawful b) :
    Equates a b := by
  induction lawful generalizing b with
  | simple label family name isLawful => exact equates_simple isLawful otherLawful
  | record label name rows isLiteral proper lawfulRows ih =>
      cases otherLawful with
      | simple label' family' name' isLawful' => exact equates_record_simple
      | record label' name' others isLiteral' otherProper otherLawful =>
          apply equates_record proper otherProper
          intro key a b member otherMember
          exact ih key a member (otherLawful key b otherMember)

/-! ### Tests -/

def valueForm (equivalence : Equivalence) (value : Option Sample) : Option Form :=
  value.map (form equivalence)

theorem declares_none {a : Sample} (lawful : Lawful a) : a.declares none = .ok .notImplemented := by
  cases lawful with
  | simple label family name isLawful => rw [declares_simple isLawful]; rfl
  | record label name rows isLiteral => rw [declares]

theorem isEquivalentTo_none {a : Sample} (lawful : Lawful a) :
    a.isEquivalentTo none = .ok (.bool false) := by
  cases lawful with
  | simple label family name => rfl
  | record label name rows isLiteral => rfl

/-- A test of lawful values gives an answer, and it holds just when they have one form. -/
theorem test_of_lawful (table : Table) (equivalence : Equivalence) {a p : Option Sample}
    (lawful : LawfulValue a) (otherLawful : LawfulValue p) :
    ∃ holds, equivalence.test (system table) a p = .ok holds ∧
      (holds = true ↔ valueForm equivalence a = valueForm equivalence p) := by
  cases a with
  | none =>
      refine ⟨p.isNone, rfl, ?_⟩
      cases p with
      | none => exact ⟨fun _ => rfl, fun _ => rfl⟩
      | some b =>
          constructor
          · intro impossible
            cases impossible
          · intro impossible
            cases impossible
  | some a =>
      have aLawful := lawful a rfl
      cases p with
      | none =>
          refine ⟨false, ?_, iff_of_false Bool.false_ne_true (Option.some_ne_none _)⟩
          cases equivalence with
          | natural => exact Equivalence.natural_test_some (system table) (declares_none aLawful)
          | structural =>
              exact Equivalence.structural_test_some (system table) (isEquivalentTo_none aLawful)
      | some b =>
          have bLawful := otherLawful b rfl
          unfold valueForm
          rw [Option.map_some, Option.map_some, Option.some_inj]
          cases equivalence with
          | natural =>
              obtain ⟨answer, given, answerIff⟩ := (declares_of_lawful aLawful bLawful).1
              exact ⟨answer, Equivalence.natural_test_some (system table) given, answerIff⟩
          | structural =>
              obtain ⟨answer, given, answerIff⟩ := equates_of_lawful aLawful bLawful
              exact ⟨answer, Equivalence.structural_test_some (system table) given, answerIff⟩

end TypeLaws.Sample
