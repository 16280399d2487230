import TypeLaws.Text.Split

/-!
Rows that are split at separators: the parts have no separator in them, and a row that is put
together from such parts is split into them again. Where only one side of a separator is free of
others, a row is still cut there in one way.
-/

namespace TypeLaws.Text

variable {α : Type} {isSeparator : α → Bool}

theorem splitAll_ne_nil (row : List α) : splitAll isSeparator row ≠ [] := by
  intro none
  have long := length_splitAll isSeparator row
  rw [none] at long
  cases long

theorem splitAll_append_cons {separator : α} (separates : isSeparator separator) (first rest : List α) :
    splitAll isSeparator (first ++ separator :: rest) =
      splitAll isSeparator first ++ splitAll isSeparator rest := by
  induction first with
  | nil =>
      cases parts : splitAll isSeparator rest with
      | nil => exact absurd parts (splitAll_ne_nil rest)
      | cons part others => simp [splitAll, parts, separates]
  | cons item first ih =>
      cases parts : splitAll isSeparator first with
      | nil => exact absurd parts (splitAll_ne_nil first)
      | cons part others =>
          rw [List.cons_append, splitAll, ih, parts, splitAll, parts]
          by_cases again : isSeparator item
          · simp [again]
          · simp [again]

theorem not_isSeparator_of_mem_splitAll {row part : List α}
    (member : part ∈ splitAll isSeparator row) : ∀ item ∈ part, ¬isSeparator item := by
  induction row generalizing part with
  | nil =>
      rw [List.mem_singleton.mp member]
      exact fun item isIn => absurd isIn List.not_mem_nil
  | cons first rest ih =>
      cases parts : splitAll isSeparator rest with
      | nil => exact absurd parts (splitAll_ne_nil rest)
      | cons next others =>
          rw [parts] at ih
          rw [splitAll, parts] at member
          by_cases separates : isSeparator first
          · simp only [if_pos separates, List.mem_cons] at member
            rcases member with rfl | later
            · exact fun item isIn => absurd isIn List.not_mem_nil
            · exact ih (List.mem_cons.mpr later)
          · simp only [if_neg separates, List.mem_cons] at member
            rcases member with rfl | later
            · intro item isIn
              rcases List.mem_cons.mp isIn with rfl | within
              · exact separates
              · exact ih List.mem_cons_self item within
            · exact ih (List.mem_cons_of_mem next later)

theorem splitAll_of_not_isSeparator {row : List α} (none : ∀ item ∈ row, ¬isSeparator item) :
    splitAll isSeparator row = [row] := by
  induction row with
  | nil => rfl
  | cons first rest ih =>
      obtain ⟨notFirst, notLater⟩ := List.forall_mem_cons.mp none
      rw [splitAll, ih notLater]
      exact if_neg notFirst

theorem splitAll_intercalate {separator : α} (separates : isSeparator separator)
    {parts : List (List α)} (nonempty : parts ≠ [])
    (none : ∀ part ∈ parts, ∀ item ∈ part, ¬isSeparator item) :
    splitAll isSeparator ([separator].intercalate parts) = parts := by
  induction parts with
  | nil => exact absurd rfl nonempty
  | cons first rest ih =>
      obtain ⟨notFirst, notLater⟩ := List.forall_mem_cons.mp none
      cases rest with
      | nil =>
          rw [List.intercalate_singleton]
          exact splitAll_of_not_isSeparator notFirst
      | cons second others =>
          rw [List.intercalate_cons_cons, List.append_assoc, List.singleton_append,
            splitAll_append_cons separates, splitAll_of_not_isSeparator notFirst,
            ih (List.cons_ne_nil _ _) notLater]
          rfl

section Cut

variable {separator : α} {first other rest behind : List α}

theorem eq_of_cut_at_first (notFirst : separator ∉ first) (notOther : separator ∉ other)
    (same : first ++ separator :: rest = other ++ separator :: behind) :
    first = other ∧ rest = behind := by
  induction first generalizing other with
  | nil =>
      cases other with
      | nil => exact ⟨rfl, List.tail_eq_of_cons_eq same⟩
      | cons item others =>
          have separates : separator = item := List.head_eq_of_cons_eq same
          exact absurd (separates ▸ List.mem_cons_self) notOther
  | cons item items ih =>
      cases other with
      | nil =>
          have separates : item = separator := List.head_eq_of_cons_eq same
          exact absurd (separates ▸ List.mem_cons_self) notFirst
      | cons next others =>
          rw [List.mem_cons, not_or] at notFirst notOther
          obtain ⟨rfl, sameItems⟩ := List.cons.inj same
          obtain ⟨rfl, sameRest⟩ := ih notFirst.2 notOther.2 sameItems
          exact ⟨rfl, sameRest⟩

theorem eq_of_cut_at_last (notRest : separator ∉ rest) (notBehind : separator ∉ behind)
    (same : first ++ separator :: rest = other ++ separator :: behind) :
    first = other ∧ rest = behind := by
  have reversed : rest.reverse ++ separator :: first.reverse =
      behind.reverse ++ separator :: other.reverse := by
    simpa using congrArg List.reverse same
  obtain ⟨sameRest, sameFirst⟩ := eq_of_cut_at_first
    (mt List.mem_reverse.mp notRest) (mt List.mem_reverse.mp notBehind) reversed
  exact ⟨List.reverse_inj.mp sameFirst, List.reverse_inj.mp sameRest⟩

end Cut

end TypeLaws.Text
