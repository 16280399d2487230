import Mathlib.Data.List.Forall2
import TypeLaws.Fact
import TypeLaws.Proofs.Text.Split

/-!
The layout of facts loses no value. In front of a value stands the label, filled up to a width that
depends on the labels alone; so the texts of the values are read off a layout one by one, whatever
the labels are, if no value goes over a line end.
-/

namespace TypeLaws.Fact

/-- The width is the length of the longest label that has a value. -/
structure IsColumn (facts : List Fact) (width : Nat) : Prop where
  holds : ∀ fact ∈ facts, fact.value ≠ none → fact.label.length ≤ width
  tight : ∀ wide, (∀ fact ∈ facts, fact.value ≠ none → fact.label.length ≤ wide) → width ≤ wide

theorem isColumn_columnWidth (facts : List Fact) : IsColumn facts (columnWidth facts) := by
  induction facts with
  | nil => exact ⟨nofun, fun wide _ => Nat.zero_le wide⟩
  | cons fact rest ih =>
      rw [columnWidth]
      cases held : fact.value with
      | none =>
          have simple : fact.isSimple := by rw [isSimple, held]; rfl
          rw [if_pos simple]
          constructor
          · intro other member valued
            rcases List.mem_cons.mp member with rfl | later
            · exact absurd held valued
            · exact ih.holds other later valued
          · intro wide fits
            exact ih.tight wide fun other later => fits other (List.mem_cons_of_mem fact later)
      | some value =>
          have notSimple : ¬fact.isSimple := by rw [isSimple, held]; exact Bool.false_ne_true
          have valued : fact.value ≠ none := by rw [held]; exact Option.some_ne_none value
          rw [if_neg notSimple]
          constructor
          · intro other member otherValued
            rcases List.mem_cons.mp member with rfl | later
            · exact Nat.le_max_left _ _
            · exact Nat.le_trans (ih.holds other later otherValued) (Nat.le_max_right _ _)
          · intro wide fits
            apply Nat.max_le.mpr
            constructor
            · exact fits fact List.mem_cons_self valued
            · exact ih.tight wide fun other later => fits other (List.mem_cons_of_mem fact later)

/-- A simple fact is its label; a value stands behind the whole label and a separator at the width. -/
structure IsEntry (width : Nat) (fact : Fact) (entry : Text) : Prop where
  simple : fact.value = none → entry = fact.label
  valued : ∀ value, fact.value = some value → ∃ gap : List Char, (∀ c ∈ gap, c = ' ') ∧
    fact.label.length + gap.length = width ∧
    entry = Text.ofString (fact.label ++ String.ofList gap ++ ": ") ++ value.asText

theorem isEntry_entry {width : Nat} {fact : Fact}
    (fits : fact.value ≠ none → fact.label.length ≤ width) :
    IsEntry width fact (entry width fact) := by
  constructor
  · intro simple
    rw [entry, simple]
  · intro value held
    have room : fact.label.length ≤ width := fits (by rw [held]; exact Option.some_ne_none value)
    refine ⟨List.replicate (width - fact.label.length) ' ', ?_, ?_, ?_⟩
    · exact fun c member => List.eq_of_mem_replicate member
    · rw [List.length_replicate]
      omega
    · rw [entry, held, Text.ofString_append]
      rfl

def valueText (fact : Fact) : Option Text :=
  fact.value.map Value.asText

/-- Facts under the same label, of which both have a value or none has. -/
structure Alike (fact other : Fact) : Prop where
  label : other.label = fact.label
  isSimple : other.isSimple = fact.isSimple

def IsOneLine (fact : Fact) : Prop :=
  ∀ text, fact.valueText = some text → .char '\n' ∉ text

def opening (width : Nat) (fact : Fact) : Text :=
  if fact.isSimple then fact.label else pad width fact.label ++ ": "

def ending (fact : Fact) : Text :=
  fact.valueText.getD ""

theorem entry_eq (width : Nat) (fact : Fact) : entry width fact = opening width fact ++ ending fact := by
  obtain ⟨label, value⟩ := fact
  cases value with
  | none => exact (List.append_nil _).symm
  | some value => rfl

theorem layout_eq (facts : List Fact) :
    layout facts = [CodePoint.char '\n'].intercalate
      (facts.map fun fact => opening (columnWidth facts) fact ++ ending fact) :=
  congrArg _ (List.map_congr_left fun fact _ => entry_eq (columnWidth facts) fact)

theorem isSimple_eq (fact : Fact) : fact.isSimple = fact.valueText.isNone := by
  rw [isSimple, valueText, Option.isNone_map]

section Alike

variable {fact other : Fact} {facts others : List Fact}

theorem Alike.opening_eq (alike : Alike fact other) (width : Nat) :
    opening width other = opening width fact := by
  rw [opening, opening, alike.label, alike.isSimple]

theorem Alike.valueText_eq (alike : Alike fact other) (same : ending fact = ending other) :
    fact.valueText = other.valueText := by
  have asMany := alike.isSimple
  rw [isSimple_eq, isSimple_eq] at asMany
  rw [ending, ending] at same
  cases text : fact.valueText with
  | none =>
      rw [text] at asMany
      exact (Option.isNone_iff_eq_none.mp asMany).symm
  | some written =>
      cases otherText : other.valueText with
      | none =>
          rw [text, otherText] at asMany
          cases asMany
      | some otherWritten =>
          rw [text, otherText] at same
          exact congrArg some same

theorem not_mem_ending (line : IsOneLine fact) : .char '\n' ∉ ending fact := by
  unfold ending
  cases text : fact.valueText with
  | none => exact List.not_mem_nil
  | some written => exact line written text

theorem columnWidth_eq_of_alike (alike : List.Forall₂ Alike facts others) :
    columnWidth others = columnWidth facts := by
  induction alike with
  | nil => rfl
  | cons here _ ih => rw [columnWidth, columnWidth, here.isSimple, here.label, ih]

theorem rows_eq_of_valueTexts_eq (width : Nat) (alike : List.Forall₂ Alike facts others)
    (same : facts.map valueText = others.map valueText) :
    (facts.map fun fact => opening width fact ++ ending fact) =
      others.map fun fact => opening width fact ++ ending fact := by
  induction alike with
  | nil => rfl
  | cons here _ ih =>
      rw [List.map_cons, List.map_cons] at same
      obtain ⟨sameHere, sameLater⟩ := List.cons.inj same
      rw [List.map_cons, List.map_cons, ih sameLater, here.opening_eq, ending, ending, sameHere]

/-- With one width the openings agree, so the first line end behind an opening ends its value. -/
theorem valueTexts_eq_of_layouts_eq {width : Nat} (alike : List.Forall₂ Alike facts others)
    (lines : ∀ fact ∈ facts, IsOneLine fact) (otherLines : ∀ fact ∈ others, IsOneLine fact)
    (same : [.char '\n'].intercalate (facts.map fun fact => opening width fact ++ ending fact) =
      [.char '\n'].intercalate (others.map fun fact => opening width fact ++ ending fact)) :
    facts.map valueText = others.map valueText := by
  induction alike with
  | nil => rfl
  | @cons fact other rest behind here later ih =>
      obtain ⟨line, restLines⟩ := List.forall_mem_cons.mp lines
      obtain ⟨otherLine, behindLines⟩ := List.forall_mem_cons.mp otherLines
      cases later with
      | nil =>
          simp only [List.map_cons, List.map_nil, List.intercalate_singleton, here.opening_eq] at same
          have sameEnding : ending fact = ending other := List.append_cancel_left same
          rw [List.map_singleton, List.map_singleton, here.valueText_eq sameEnding]
      | cons next others =>
          simp only [List.map_cons, List.intercalate_cons_cons, here.opening_eq, List.append_assoc,
            List.singleton_append] at same
          obtain ⟨sameEnding, sameRest⟩ := Text.eq_of_cut_at_first (not_mem_ending line)
            (not_mem_ending otherLine) (List.append_cancel_left same)
          rw [List.map_cons, here.valueText_eq sameEnding, ih restLines behindLines sameRest]
          rfl

end Alike

/--
A layout is a row of entries with one width, that of the longest label with a value. No label is cut,
and a value always stands at the same place behind it. Two rows of facts under the same labels, with
values in the same places, have the same layout only if their values have the same texts one by one.
-/
theorem layout_shows_every_value (facts : List Fact) :
    (∃ width entries, IsColumn facts width ∧ List.Forall₂ (IsEntry width) facts entries ∧
      layout facts = ("\n" : Text).intercalate entries) ∧
    ∀ others, List.Forall₂ Alike facts others → (∀ fact ∈ facts, IsOneLine fact) →
      (∀ fact ∈ others, IsOneLine fact) →
      (layout facts = layout others ↔ facts.map valueText = others.map valueText) := by
  constructor
  · have column := isColumn_columnWidth facts
    refine ⟨columnWidth facts, facts.map (entry (columnWidth facts)), column, ?_, rfl⟩
    rw [List.forall₂_map_right_iff, List.forall₂_same]
    exact fun fact member => isEntry_entry (column.holds fact member)
  · intro others alike lines otherLines
    have sameWidth := columnWidth_eq_of_alike alike
    rw [layout_eq, layout_eq, sameWidth]
    constructor
    · exact valueTexts_eq_of_layouts_eq alike lines otherLines
    · intro same
      rw [rows_eq_of_valueTexts_eq _ alike same]

/--
Values that hold separators behind labels that end in one, and a label that goes over a line end. The
null value and its word have one text and so one layout.
-/
theorem layout_shows_misleading_value :
    let facts : List Fact :=
      [of "a: " (.text "b: c"), simple "law\nbroken", of "hash" (.int 0), of "" .null]
    let others : List Fact :=
      [of "a: " (.text "b"), simple "law\nbroken", of "hash" (.text "c"), of "" .null]
    let again : List Fact :=
      [of "a: " (.text "b: c"), simple "law\nbroken", of "hash" (.text "0"), of "" (.text "None")]
    layout facts ≠ layout others ∧ layout facts = layout again := by
  intro facts others again
  have alike : List.Forall₂ Alike facts others :=
    .cons ⟨rfl, rfl⟩ <| .cons ⟨rfl, rfl⟩ <| .cons ⟨rfl, rfl⟩ <| .cons ⟨rfl, rfl⟩ .nil
  have alsoAlike : List.Forall₂ Alike facts again :=
    .cons ⟨rfl, rfl⟩ <| .cons ⟨rfl, rfl⟩ <| .cons ⟨rfl, rfl⟩ <| .cons ⟨rfl, rfl⟩ .nil
  have noBreak : ∀ text ∈ (facts ++ others ++ again).filterMap valueText, .char '\n' ∉ text := by
    decide +kernel
  have lines : ∀ fact ∈ facts ++ others ++ again, IsOneLine fact := by
    intro fact member text held
    exact noBreak text (List.mem_filterMap.mpr ⟨fact, member, held⟩)
  rw [List.forall_mem_append, List.forall_mem_append] at lines
  obtain ⟨⟨line, otherLine⟩, againLine⟩ := lines
  constructor
  · rw [Ne, (layout_shows_every_value facts).2 others alike line otherLine]
    decide +kernel
  · rw [(layout_shows_every_value facts).2 again alsoAlike line againLine]
    decide +kernel

end TypeLaws.Fact
