import Mathlib.Data.List.Perm.Subperm
import Mathlib.Data.List.Nodup

/-!
Rows under distinct keys, such as the properties of a record: what is found under a key, and the
order in which they are sorted. Neither depends on the order in which the rows were given.
-/

namespace TypeLaws.Rows

variable {α β : Type}

theorem mem_of_lookup {rows : List (String × α)} {key : String} {value : α}
    (found : rows.lookup key = some value) : (key, value) ∈ rows := by
  obtain ⟨before, after, same, -⟩ := List.lookup_eq_some_iff.mp found
  rw [same]
  simp

theorem lookup_of_mem {rows : List (String × α)} (distinct : (rows.map Prod.fst).Nodup)
    {key : String} {value : α} (member : (key, value) ∈ rows) :
    rows.lookup key = some value := by
  induction rows with
  | nil => cases member
  | cons row rest ih =>
      obtain ⟨absent, restDistinct⟩ := List.nodup_cons.mp distinct
      rcases List.mem_cons.mp member with rfl | later
      · exact List.lookup_cons_self
      · have different : (key == row.1) = false := by
          rw [beq_eq_false_iff_ne]
          intro same
          exact absent (same ▸ List.mem_map_of_mem (f := Prod.fst) later)
        rw [List.lookup_cons, different]
        exact ih restDistinct later

theorem lookup_isSome_iff {rows : List (String × α)} (key : String) :
    (rows.lookup key).isSome ↔ key ∈ rows.map Prod.fst := by
  rw [List.lookup_isSome_iff, List.mem_map]
  constructor
  · rintro ⟨row, member, same⟩
    exact ⟨row, member, (eq_of_beq same).symm⟩
  · rintro ⟨row, member, rfl⟩
    exact ⟨row, member, beq_self_eq_true _⟩

theorem lookup_map_assign (rows : List (String × α)) (key other : String) (value : α) :
    (rows.map fun row => if row.1 == key then (row.1, value) else row).lookup other =
      if other = key then (rows.lookup other).map fun _ => value else rows.lookup other := by
  induction rows with
  | nil =>
      rw [List.map_nil]
      split <;> rfl
  | cons row rest ih =>
      obtain ⟨here, held⟩ := row
      rw [List.map_cons]
      by_cases same : other = here
      · subst same
        by_cases isKey : other = key
        · simp [isKey]
        · simp [isKey]
      · have skipped : (other == here) = false := beq_eq_false_iff_ne.mpr same
        by_cases isKey : here = key
        · simp only [isKey, beq_self_eq_true, if_true, List.lookup_cons, ih]
          rw [← isKey, skipped]
        · have kept : (here == key) = false := beq_eq_false_iff_ne.mpr isKey
          simp only [kept, Bool.false_eq_true, if_false, List.lookup_cons, skipped, ih]

theorem keys_subset_of_length {rows : List (String × α)} {others : List (String × β)}
    (distinct : (rows.map Prod.fst).Nodup) (sameLength : rows.length = others.length)
    (subset : rows.map Prod.fst ⊆ others.map Prod.fst) :
    others.map Prod.fst ⊆ rows.map Prod.fst := by
  have asMany : (others.map Prod.fst).length = (rows.map Prod.fst).length := by
    rw [List.length_map, List.length_map, sameLength]
  have perm : (rows.map Prod.fst).Perm (others.map Prod.fst) :=
    (List.subperm_of_subset distinct subset).perm_of_length_le (Nat.le_of_eq asMany)
  exact perm.symm.subset

def byKey (a b : String × α) : Bool :=
  decide (a.1 ≤ b.1)

theorem pairwise_sorted (rows : List (String × α)) :
    (rows.mergeSort byKey).Pairwise fun a b => byKey a b = true := by
  apply List.pairwise_mergeSort
  · intro a b c first second
    exact decide_eq_true (String.le_trans (of_decide_eq_true first) (of_decide_eq_true second))
  · intro a b
    rw [Bool.or_eq_true]
    rcases String.le_total a.1 b.1 with less | greater
    · exact .inl (decide_eq_true less)
    · exact .inr (decide_eq_true greater)

theorem sorted_eq_of_perm {rows others : List (String × α)}
    (distinct : (rows.map Prod.fst).Nodup) (perm : rows.Perm others) :
    rows.mergeSort byKey = others.mergeSort byKey := by
  have unique : ∀ a b, a ∈ rows.mergeSort byKey → b ∈ others.mergeSort byKey →
      byKey a b = true → byKey b a = true → a = b := by
    intro a b aMember bMember less greater
    have sameKey : a.1 = b.1 :=
      String.le_antisymm (of_decide_eq_true less) (of_decide_eq_true greater)
    have aRow : a ∈ rows := List.mem_mergeSort.mp aMember
    have bRow : b ∈ rows := perm.mem_iff.mpr (List.mem_mergeSort.mp bMember)
    exact List.inj_on_of_nodup_map distinct aRow bRow sameKey
  have sortedPerm : (rows.mergeSort byKey).Perm (others.mergeSort byKey) :=
    (List.mergeSort_perm rows byKey).trans (perm.trans (List.mergeSort_perm others byKey).symm)
  exact sortedPerm.eq_of_pairwise unique (pairwise_sorted rows) (pairwise_sorted others)

end TypeLaws.Rows
