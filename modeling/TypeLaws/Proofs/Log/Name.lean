import Mathlib.Data.List.Infix
import TypeLaws.Log.State
import TypeLaws.Proofs.Text.Split

/-!
Dotted names. The loggers that may stand above one are those whose name with a dot behind it is a
beginning of its name; they are found one after another, each above the one before it.
-/

namespace TypeLaws.Log

/-- A name of parts with dots between them, none of them empty. -/
def IsDotted (name : String) : Prop :=
  ∀ part ∈ Text.splitAll (· == '.') name.toList, part ≠ []

instance (name : String) : Decidable (IsDotted name) :=
  inferInstanceAs (Decidable (∀ part ∈ _, part ≠ []))

def isAbove (upper lower : String) : Bool :=
  (upper.toList ++ ['.']).isPrefixOf lower.toList

theorem isAbove_iff (upper lower : String) :
    isAbove upper lower ↔ upper.toList ++ ['.'] <+: lower.toList :=
  List.isPrefixOf_iff_prefix

theorem canonical_of_dotted {name : String} (dotted : IsDotted name) : canonical name = name := by
  refine if_neg ?_
  intro empty
  rw [eq_of_beq empty] at dotted
  exact dotted [] List.mem_cons_self rfl

theorem beginningsBackward_eq (name : List Char) :
    beginningsBackward name =
      match name.dropWhile (· != '.') with
      | [] => []
      | [_] => []
      | _ :: last :: rest => (last :: rest) :: beginningsBackward rest := by
  rw [beginningsBackward]
  split <;> rename_i found <;> rw [found]

theorem beginningsBackward_cons {c : Char} (noDot : c ≠ '.') (rest : List Char) :
    beginningsBackward (c :: rest) = beginningsBackward rest := by
  rw [beginningsBackward_eq, beginningsBackward_eq rest,
    List.dropWhile_cons_of_pos (by simpa using noDot)]

theorem prefix_of_last_dot {upper before rest : List Char} (noDot : '.' ∉ rest) :
    upper ++ ['.'] <+: before ++ '.' :: rest ↔ upper = before ∨ upper ++ ['.'] <+: before := by
  have whole : before ++ ['.'] <+: before ++ '.' :: rest := ⟨rest, by simp⟩
  constructor
  · intro begins
    rcases List.prefix_or_prefix_of_prefix begins whole with shorter | longer
    · rcases List.prefix_concat_iff.mp shorter with same | within
      · exact .inl (List.append_cancel_right same)
      · exact .inr within
    · rcases List.prefix_concat_iff.mp longer with same | within
      · exact .inl (List.append_cancel_right same).symm
      · -- Another dot would stand behind the last one.
        obtain ⟨more, rfl⟩ := within
        rw [List.append_assoc, List.append_assoc, List.prefix_append_right_inj, List.singleton_append,
          List.cons_prefix_cons] at begins
        exact absurd (begins.2.subset (by simp)) noDot
  · rintro (rfl | within)
    · exact whole
    · exact within.trans (List.prefix_append _ _)

/--
Either no logger may stand above a name, or there is a nearest one, and the others stand above that
one.
-/
theorem candidates_of_dotted {name : String} (dotted : IsDotted name) :
    (candidates name = [] ∧ ∀ upper, ¬isAbove upper name) ∨
      ∃ nearest, IsDotted nearest ∧ nearest.length < name.length ∧
        candidates name = nearest :: candidates nearest ∧
        ∀ upper, isAbove upper name ↔ upper = nearest ∨ isAbove upper nearest := by
  have split := List.takeWhile_append_dropWhile (p := (· != '.')) (l := name.toList.reverse)
  have noDot : '.' ∉ (name.toList.reverse.takeWhile (· != '.')).reverse := by
    intro isIn
    have kept := List.all_eq_true.mp List.all_takeWhile _ (List.mem_reverse.mp isIn)
    exact absurd kept (by decide)
  have begins := beginningsBackward_eq name.toList.reverse
  cases found : name.toList.reverse.dropWhile (· != '.') with
  | nil =>
      rw [found] at begins split
      rw [List.append_nil] at split
      rw [split, List.reverse_reverse] at noDot
      refine .inl ⟨?_, ?_⟩
      · rw [candidates, begins]
        rfl
      · intro upper above
        exact noDot (((isAbove_iff upper name).mp above).subset (by simp))
  | cons dot before =>
      have isDot : dot = '.' := by
        have stops := List.head?_dropWhile_not (· != '.') name.toList.reverse
        rw [found] at stops
        simpa using stops
      subst isDot
      rw [found] at begins split
      have row : name.toList =
          before.reverse ++ '.' :: (name.toList.reverse.takeWhile (· != '.')).reverse := by
        have reversed := congrArg List.reverse split
        simpa using reversed.symm
      rw [IsDotted, row, Text.splitAll_append_cons rfl] at dotted
      have dottedBefore : ∀ part ∈ Text.splitAll (· == '.') before.reverse, part ≠ [] :=
        fun part isIn => dotted part (List.mem_append_left _ isIn)
      cases before with
      | nil => exact absurd rfl (dottedBefore [] List.mem_cons_self)
      | cons last rest =>
          have noDot' : last ≠ '.' := by
            rintro rfl
            rw [List.reverse_cons, Text.splitAll_append_cons rfl] at dottedBefore
            exact dottedBefore [] (List.mem_append_right _ List.mem_cons_self) rfl
          refine .inr ⟨String.ofList (last :: rest).reverse, ?_, ?_, ?_, ?_⟩
          · rwa [IsDotted, String.toList_ofList]
          · have long := congrArg List.length row
            rw [List.length_append, List.length_cons] at long
            rw [← String.length_toList, ← String.length_toList, String.toList_ofList]
            omega
          · rw [candidates, candidates, begins, String.toList_ofList, List.reverse_reverse,
              beginningsBackward_cons noDot', List.map_cons]
          · intro upper
            rw [isAbove_iff, isAbove_iff, row, prefix_of_last_dot noDot, String.toList_ofList,
              ← String.toList_inj, String.toList_ofList]

theorem mem_candidates_iff {name : String} (dotted : IsDotted name) (upper : String) :
    upper ∈ candidates name ↔ isAbove upper name := by
  rcases candidates_of_dotted dotted with ⟨empty, none⟩ | ⟨nearest, nearestDotted, _, row, above⟩
  · rw [empty]
    exact iff_of_false List.not_mem_nil (none upper)
  · rw [row, List.mem_cons, mem_candidates_iff nearestDotted, above]
termination_by name.length

theorem not_isAbove_self (name : String) : ¬isAbove name name := by
  intro above
  have long := ((isAbove_iff name name).mp above).length_le
  rw [List.length_append, List.length_singleton] at long
  omega

theorem nodup_candidates {name : String} (dotted : IsDotted name) : (candidates name).Nodup := by
  rcases candidates_of_dotted dotted with ⟨empty, -⟩ | ⟨nearest, nearestDotted, _, row, -⟩
  · rw [empty]
    exact List.nodup_nil
  · rw [row, List.nodup_cons]
    refine ⟨?_, nodup_candidates nearestDotted⟩
    intro again
    exact not_isAbove_self nearest ((mem_candidates_iff nearestDotted nearest).mp again)
termination_by name.length

theorem candidates_split {name upper : String} (dotted : IsDotted name) {before after : List String}
    (row : candidates name = before ++ upper :: after) : after = candidates upper := by
  induction before generalizing name with
  | nil =>
      rcases candidates_of_dotted dotted with ⟨empty, -⟩ | ⟨nearest, _, _, row', -⟩
      · rw [empty] at row
        cases row
      · rw [row'] at row
        cases row
        rfl
  | cons first before ih =>
      rcases candidates_of_dotted dotted with ⟨empty, -⟩ | ⟨nearest, nearestDotted, _, row', -⟩
      · rw [empty] at row
        cases row
      · rw [row'] at row
        exact ih nearestDotted (List.cons.inj row).2

end TypeLaws.Log
