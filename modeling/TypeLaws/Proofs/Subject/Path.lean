import Mathlib.Data.List.Basic
import TypeLaws.Proofs.Subject.Navigation
import TypeLaws.Proofs.Text.Quoted

/-!
The path of a subject tells how the subject was reached. A path is a row of segments, each of which
ends where its quoted name ends, so the names are read back from it whatever text they are: a name
that looks like a piece of a path is not taken for one.
-/

namespace TypeLaws

variable {τ : Type}

namespace Subject

def segmentOpening : List Char :=
  ".to_maybe_object_type().get_property_type(".toList

/-- The name in the segment that a row begins with, and what comes behind the segment. -/
def segment? (row : List Char) : Option (String × List Char) :=
  match (row.dropPrefix? segmentOpening).bind Text.unquote? with
  | some (name, ')' :: rest) => some (String.ofList name, rest)
  | _ => none

theorem length_of_segment? {row rest : List Char} {name : String}
    (read : segment? row = some (name, rest)) : rest.length < row.length := by
  unfold segment? at read
  split at read
  · rename_i quoted _ unquoted
    cases read
    obtain ⟨behind, dropped, isQuoted⟩ := Option.bind_eq_some_iff.mp unquoted
    obtain ⟨opening, rfl, -⟩ := List.dropPrefix?_eq_some_iff.mp dropped
    have shorter := Text.length_of_unquote? isQuoted
    rw [List.length_cons] at shorter
    rw [List.length_append]
    omega
  · cases read

def segments? (row : List Char) : Option (List String) :=
  if row.isEmpty then some []
  else
    match _ : segment? row with
    | none => none
    | some (name, rest) => (segments? rest).map (name :: ·)
termination_by row.length
decreasing_by exact length_of_segment? ‹_›

/-- The names of the properties that lead along a path, in their order. -/
def namesOf? (path : String) : Option (List String) :=
  (path.toList.dropPrefix? "type".toList).bind segments?

theorem segment_toList (name : String) :
    (segment name).toList = segmentOpening ++ (Text.quoteChars name.toList ++ [')']) := by
  have quoted : (Text.quote name).toList = Text.quoteChars name.toList := String.toList_ofList
  have closing : ")".toList = [')'] := rfl
  unfold segment segmentOpening
  rw [String.toList_append, String.toList_append, quoted, closing, List.append_assoc]

theorem segment?_segment (name : String) (rest : List Char) :
    segment? ((segment name).toList ++ rest) = some (name, rest) := by
  have opened : (segmentOpening ++ (Text.quoteChars name.toList ++ ')' :: rest)).dropPrefix?
      segmentOpening = some (Text.quoteChars name.toList ++ ')' :: rest) :=
    List.dropPrefix?_append_of_beq _ (beq_self_eq_true _)
  rw [segment_toList, List.append_assoc, List.append_assoc, List.singleton_append, segment?, opened,
    Option.bind_some, Text.unquote?_quoteChars]
  simp only [String.ofList_toList]

theorem segments?_segments (names : List String) :
    segments? (String.join (names.map segment)).toList = some names := by
  induction names with
  | nil => rw [segments?]; rfl
  | cons name rest ih =>
      have read := segment?_segment name (String.join (rest.map segment)).toList
      have more :
          ((segment name).toList ++ (String.join (rest.map segment)).toList).isEmpty = false := by
        rw [segment_toList]
        rfl
      rw [List.map_cons, String.join_cons, String.toList_append, segments?.eq_def,
        if_neg (by rw [more]; exact Bool.false_ne_true)]
      split
      · rename_i failed
        rw [read] at failed
        cases failed
      · rename_i first behind other
        cases read.symm.trans other
        rw [ih]
        rfl

theorem namesOf?_path (names : List String) :
    namesOf? ("type" ++ String.join (names.map segment)) = some names := by
  have opened : ("type".toList ++ (String.join (names.map segment)).toList).dropPrefix?
      "type".toList = some (String.join (names.map segment)).toList :=
    List.dropPrefix?_append_of_beq _ (beq_self_eq_true _)
  rw [namesOf?, String.toList_append, opened, Option.bind_some, segments?_segments]

section LookUp

variable {system : TypeSystem τ} {subject reached : Subject τ} {reporter : Reporter}
  {journal after : Journal}

theorem path_of_propertyType {name : String}
    (ran : (subject.propertyType system (.text name)).runFrom reporter journal =
      (.ok reached, after)) :
    reached.path = subject.path ++ segment name := by
  rw [← propertyPath_quote]
  obtain ⟨quoted, _, named, ran⟩ := Check.exists_of_runFrom_bind_ok ran
  cases (Check.eq_ok_of_runFrom_call named).1
  obtain ⟨found, _, -, ran⟩ := Check.exists_of_runFrom_bind_ok ran
  obtain ⟨shown, _, -, made⟩ := Check.exists_of_runFrom_bind_ok ran
  cases made
  rfl

end LookUp

/--
The subjects that a row of names leads to from a subject at the top. Each look-up may have its own
reporter and start from any journal: other assertions may stand in between.
-/
inductive LedTo (system : TypeSystem τ) : List String → Subject τ → Prop where
  | top (value : Option τ) (reporter : Handle) : LedTo system [] (Subject.of value reporter)
  | follow {names : List String} {subject reached : Subject τ} {name : String}
      {reporter : Reporter} {journal after : Journal} (led : LedTo system names subject)
      (ran : (subject.propertyType system (.text name)).runFrom reporter journal =
        (.ok reached, after)) :
      LedTo system (names ++ [name]) reached

namespace LedTo

variable {system : TypeSystem τ} {names : List String} {subject : Subject τ}

theorem path_eq (led : LedTo system names subject) :
    subject.path = "type" ++ String.join (names.map segment) := by
  induction led with
  | top value reporter => rfl
  | follow _ ran ih =>
      rw [path_of_propertyType ran, ih, List.map_append, String.join_append, List.map_singleton,
        String.append_assoc]
      rfl

theorem navigate (led : LedTo system names subject) {more : List String} {final : Subject τ}
    {reporter : Reporter} {journal reached : Journal}
    (ran : (subject.navigate system more).runFrom reporter journal = (.ok final, reached)) :
    LedTo system (names ++ more) final := by
  -- By the names still to come: each look-up moves the subject and lengthens the names behind it.
  induction more generalizing names subject journal with
  | nil =>
      cases ran
      rwa [List.append_nil]
  | cons name rest ih =>
      rw [Subject.navigate, List.foldlM_cons] at ran
      obtain ⟨child, _, first, ran⟩ := Check.exists_of_runFrom_bind_ok ran
      rw [List.append_cons]
      exact ih (led.follow first) ran

end LedTo

end Subject

/--
Paths identify the way. The row of names that leads from a subject at the top to another one can be
read off the path of the latter; so two rows of names, of any texts, in any systems and from any
values, lead to subjects with the same path only if they are the same.
-/
theorem path_identifies_navigation {σ : Type} {system : TypeSystem σ} {otherSystem : TypeSystem τ}
    {names others : List String} {subject : Subject σ} {other : Subject τ}
    (led : Subject.LedTo system names subject) (otherLed : Subject.LedTo otherSystem others other) :
    Subject.namesOf? subject.path = some names ∧ (subject.path = other.path ↔ names = others) := by
  have read : Subject.namesOf? subject.path = some names := by
    rw [led.path_eq, Subject.namesOf?_path]
  have otherRead : Subject.namesOf? other.path = some others := by
    rw [otherLed.path_eq, Subject.namesOf?_path]
  refine ⟨read, ?_, ?_⟩
  · intro same
    rw [same, otherRead] at read
    exact (Option.some.inj read).symm
  · rintro rfl
    rw [led.path_eq, otherLed.path_eq]

/--
A single name that holds the end of one segment and the beginning of the next leads elsewhere than
the two names that it seems to be: from an absent value, and twice around the loop.
-/
theorem path_of_misleading_name :
    let misleading := "next').to_maybe_object_type().get_property_type('next"
    ∃ subject other : Subject Sample,
      Subject.LedTo Sample.loopSystem [misleading] subject ∧
        Subject.LedTo Sample.loopSystem ["next", "next"] other ∧
        Subject.namesOf? subject.path = some [misleading] ∧ subject.path ≠ other.path := by
  intro misleading
  have nowhere : Sample.loopSystem.Navigable none [misleading] :=
    .cons (by rintro t ⟨⟩) (.nil _)
  have around : Sample.loopSystem.Navigable (some Sample.loop) ["next", "next"] :=
    .cons (Sample.looksUp_loop ⟨_, rfl⟩) <| .cons (Sample.looksUp_loop ⟨_, rfl⟩) (.nil _)
  have led := (Subject.LedTo.top none .ofSession).navigate (Subject.runFrom_navigate nowhere .empty)
  have otherLed := (Subject.LedTo.top (some Sample.loop) .ofSession).navigate
    (Subject.runFrom_navigate around .empty)
  obtain ⟨read, same⟩ := path_identifies_navigation led otherLed
  refine ⟨_, _, led, otherLed, read, ?_⟩
  intro samePath
  have lengths := congrArg List.length (same.mp samePath)
  cases lengths

end TypeLaws
