/-!
Rows split at separators. A row always has one part more than it has separators, and parts may be
empty.
-/

namespace TypeLaws.Text

def splitAll {α : Type} (isSeparator : α → Bool) : List α → List (List α)
  | [] => [[]]
  | item :: rest =>
      match splitAll isSeparator rest with
      | [] => [[item]]
      | part :: parts =>
          if isSeparator item then [] :: part :: parts else (item :: part) :: parts

theorem length_splitAll {α : Type} (isSeparator : α → Bool) (row : List α) :
    (splitAll isSeparator row).length = row.countP isSeparator + 1 := by
  induction row with
  | nil => rfl
  | cons item rest ih =>
      unfold splitAll
      split
      · rename_i none
        rw [none] at ih
        cases ih
      · rename_i part parts found
        rw [found] at ih
        by_cases separates : isSeparator item
        · simp only [if_pos separates, List.countP_cons_of_pos separates, List.length_cons] at ih ⊢
          omega
        · simp only [if_neg separates, List.countP_cons_of_neg separates, List.length_cons] at ih ⊢
          omega

end TypeLaws.Text
