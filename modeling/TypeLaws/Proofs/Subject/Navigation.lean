import TypeLaws.Proofs.Subject.Composition
import TypeLaws.Proofs.Subject.Query
import TypeLaws.Proofs.System.DebugText

/-!
Following properties from one subject to the next. A row of names leads along the graph of types and
ends in an absent one as soon as the graph has no such property; a collecting reporter gets one
failure for each look-up on what is absent or is no object type, and none for a property that is
missing.
-/

namespace TypeLaws

variable {τ : Type}

theorem Outcome.toOption_eq_some_iff {α : Type} {outcome : Outcome α} {value : α} :
    outcome.toOption = some value ↔ outcome = .ok value := by
  cases outcome <;> simp [Except.toOption]

/-! ### The graph of types -/

namespace TypeSystem

variable (system : TypeSystem τ)

/-- The type of a property, if there is a type and it is an object type with that property. -/
def propertyOf (value : Option τ) (name : String) : Option τ := do
  let t ← value
  let answer ← (system.ask t .isObjectType).toOption
  if answer.isTrue then
    let object ← (system.objectView t).toOption.join
    (system.property object (.text name)).toOption.join
  else none

/-- The methods that looking up a property of a type calls give results. -/
structure LooksUp (t : τ) (name : String) : Prop where
  text : ∃ text, system.text t = .ok text
  isObject : ∃ answer, system.ask t .isObjectType = .ok answer
  view : ∃ view, system.objectView t = .ok view
  property : ∀ object, system.objectView t = .ok (some object) →
    ∃ found, system.property object (.text name) = .ok found

/-- Each type on which a row of names is looked up answers. -/
def Navigable (value : Option τ) (names : List String) : Prop :=
  ∀ earlier name later, names = earlier ++ name :: later →
    ∀ t, earlier.foldl system.propertyOf value = some t → system.LooksUp t name

variable {system}

theorem propertyOf_eq_some_iff {value : Option τ} {name : String} {found : τ} :
    system.propertyOf value name = some found ↔
      system.affirms value .isObjectType = true ∧
        ∃ t object, value = some t ∧ system.objectView t = .ok (some object) ∧
          system.property object (.text name) = .ok (some found) := by
  simp only [propertyOf, Option.bind_eq_bind, Option.bind_eq_some_iff, Option.join_eq_some_iff,
    Option.ite_none_right_eq_some, Outcome.toOption_eq_some_iff, affirms_eq_true_iff]
  constructor
  · rintro ⟨t, isValue, answer, asked, isTrue, object, viewed, given⟩
    exact ⟨⟨t, answer, isValue, asked, isTrue⟩, t, object, isValue, viewed, given⟩
  · rintro ⟨⟨t, answer, rfl, asked, isTrue⟩, _, object, ⟨⟩, viewed, given⟩
    exact ⟨t, rfl, answer, asked, isTrue, object, viewed, given⟩

theorem propertyOf_of_refusal {value : Option τ} {name : String}
    (refuses : system.affirms value .isObjectType = false) :
    system.propertyOf value name = none := by
  rw [Option.eq_none_iff_forall_ne_some]
  intro found given
  rw [(propertyOf_eq_some_iff.mp given).1] at refuses
  cases refuses

theorem foldl_propertyOf_none (names : List String) :
    names.foldl system.propertyOf none = none := by
  induction names with
  | nil => rfl
  | cons name rest ih => exact ih

theorem foldl_propertyOf_eq_none {value : Option τ} {names : List String} {i j : Nat} (le : i ≤ j)
    (absent : (names.take i).foldl system.propertyOf value = none) :
    (names.take j).foldl system.propertyOf value = none := by
  obtain ⟨more, longer⟩ := List.take_prefix_take_left le
  rw [← longer, List.foldl_append, absent, foldl_propertyOf_none]

theorem Navigable.head {value : Option τ} {name : String} {rest : List String}
    (navigable : system.Navigable value (name :: rest)) :
    ∀ t, value = some t → system.LooksUp t name :=
  navigable [] name rest rfl

theorem Navigable.tail {value : Option τ} {name : String} {rest : List String}
    (navigable : system.Navigable value (name :: rest)) :
    system.Navigable (system.propertyOf value name) rest := by
  intro earlier next later same t reached
  exact navigable (name :: earlier) next later (congrArg (name :: ·) same) t reached

theorem Navigable.nil (value : Option τ) : system.Navigable value [] := by
  intro earlier name later same
  exact absurd same.symm (List.append_ne_nil_of_right_ne_nil _ (List.cons_ne_nil _ _))

theorem Navigable.cons {value : Option τ} {name : String} {rest : List String}
    (head : ∀ t, value = some t → system.LooksUp t name)
    (tail : system.Navigable (system.propertyOf value name) rest) :
    system.Navigable value (name :: rest) := by
  intro earlier next later same t reached
  cases earlier with
  | nil =>
      cases same
      exact head t reached
  | cons first others =>
      obtain ⟨rfl, restSame⟩ := List.cons.inj same
      exact tail others next later restSame t reached

end TypeSystem

/-! ### One look-up -/

namespace Subject

variable (system : TypeSystem τ)

def child (subject : Subject τ) (name : String) : Subject τ :=
  ⟨system.propertyOf subject.actual name, propertyPath subject.path (Text.quote name),
    (system.debugText subject.actual).toOption, subject.reporter⟩

/-- The failures of looking up a property: one if the subject is absent or is no object type. -/
def lookUpFailures (subject : Subject τ) : List Failure :=
  match subject.actual with
  | none => [subject.failure "with_type_of_prop" absenceFacts TypeSystem.absentText]
  | some t =>
      match system.ask t .isObjectType, system.debugText (some t) with
      | .ok answer, .ok actualText =>
          if answer.isTrue then []
          else
            [subject.failure "with_type_of_prop" (subject.answerFacts .isObjectType true answer)
              actualText]
      | _, _ => []

variable {system}

theorem lookUpFailures_eq_refusals (subject : Subject τ) :
    subject.lookUpFailures system = subject.refusals system "with_type_of_prop" .isObjectType :=
  rfl

theorem lookUpFailures_of_none {subject : Subject τ} (absent : subject.actual = none) :
    subject.lookUpFailures system =
      [subject.failure "with_type_of_prop" absenceFacts TypeSystem.absentText] :=
  refusals_of_none absent _ _

theorem lookUpFailures_of_some {subject : Subject τ} {t : τ} {answer : Value} {actualText : String}
    (found : subject.actual = some t) (asked : system.ask t .isObjectType = .ok answer)
    (shown : system.debugText subject.actual = .ok actualText) :
    subject.lookUpFailures system =
      if answer.isTrue then []
      else [subject.failure "with_type_of_prop" (subject.answerFacts .isObjectType true answer)
        actualText] :=
  refusals_of_some found asked shown _

theorem child_eq {subject : Subject τ} {name shown : String}
    (shown_eq : subject.debugText system = .ok shown) :
    subject.child system name =
      ⟨system.propertyOf subject.actual name, propertyPath subject.path (Text.quote name),
        some shown, subject.reporter⟩ := by
  have parent : (system.debugText subject.actual).toOption = some shown :=
    Outcome.toOption_eq_some_iff.mpr shown_eq
  rw [child, parent]

theorem runFrom_propertyType_of_lookUp {subject : Subject τ} {name shown : String}
    (shown_eq : subject.debugText system = .ok shown) {journal reached : Journal}
    (looked : (subject.lookUp system (.text name)).runFrom .collecting journal =
      (.ok (system.propertyOf subject.actual name), reached)) :
    (subject.propertyType system (.text name)).runFrom .collecting journal =
      (.ok (subject.child system name), reached) := by
  have named : system.literalOf (.text name) = .ok (Text.quote name) := rfl
  rw [child_eq shown_eq, propertyType, named, Check.runFrom_bind_ok _ (Check.runFrom_call_ok _ _ _),
    Check.runFrom_bind_ok _ looked, shown_eq,
    Check.runFrom_bind_ok _ (Check.runFrom_call_ok _ _ _), Check.runFrom_pure]

variable (system) in
/-- On what is no object type nothing is looked up: neither a view nor a property is asked for. -/
theorem runFrom_lookUp_of_refusal {subject : Subject τ} {shown : String}
    (shown_eq : subject.debugText system = .ok shown)
    (answers : ∀ t, subject.actual = some t → ∃ answer, system.ask t .isObjectType = .ok answer)
    (refuses : system.affirms subject.actual .isObjectType = false) (name : String)
    (journal : Journal) :
    (subject.lookUp system (.text name)).runFrom .collecting journal =
      (.ok (system.propertyOf subject.actual name),
        journal.collectAll (subject.lookUpFailures system)) := by
  rw [TypeSystem.propertyOf_of_refusal refuses, lookUpFailures_eq_refusals]
  unfold lookUp
  cases found : subject.actual with
  | none =>
      rw [Check.runFrom_bind_ok _ (runFrom_present_of_none found _ journal),
        refusals_of_none found]
      exact Check.runFrom_pure none _ _
  | some t =>
      have queried := runFrom_checkQuery_true answers shown_eq "with_type_of_prop" journal
      rw [refuses] at queried
      rw [Check.runFrom_bind_ok _ (runFrom_present_of_some found _ .collecting journal)]
      dsimp only
      rw [Check.runFrom_bind_ok _ queried]
      exact Check.runFrom_pure none _ _

variable (system) in
theorem runFrom_propertyType_of_refusal {subject : Subject τ} {shown : String}
    (shown_eq : subject.debugText system = .ok shown)
    (answers : ∀ t, subject.actual = some t → ∃ answer, system.ask t .isObjectType = .ok answer)
    (refuses : system.affirms subject.actual .isObjectType = false) (name : String)
    (journal : Journal) :
    (subject.propertyType system (.text name)).runFrom .collecting journal =
      (.ok (subject.child system name), journal.collectAll (subject.lookUpFailures system)) :=
  runFrom_propertyType_of_lookUp shown_eq
    (runFrom_lookUp_of_refusal system shown_eq answers refuses name journal)

theorem runFrom_lookUp (subject : Subject τ) (name : String)
    (looksUp : ∀ t, subject.actual = some t → system.LooksUp t name) (journal : Journal) :
    (subject.lookUp system (.text name)).runFrom .collecting journal =
      (.ok (system.propertyOf subject.actual name),
        journal.collectAll (subject.lookUpFailures system)) := by
  obtain ⟨shown, shown_eq⟩ :=
    TypeSystem.debugText_of_text fun t found => (looksUp t found).text
  have answers (t : τ) (found : subject.actual = some t) :
      ∃ answer, system.ask t .isObjectType = .ok answer := (looksUp t found).isObject
  cases isObject : system.affirms subject.actual .isObjectType with
  | false => exact runFrom_lookUp_of_refusal system shown_eq answers isObject name journal
  | true =>
      have queried := runFrom_checkQuery_true answers shown_eq "with_type_of_prop" journal
      rw [isObject] at queried
      obtain ⟨t, answer, found, asked, isTrue⟩ := TypeSystem.affirms_eq_true_iff.mp isObject
      obtain ⟨view, viewed⟩ := (looksUp t found).view
      unfold lookUp
      rw [Check.runFrom_bind_ok _ (runFrom_present_of_some found _ .collecting journal)]
      dsimp only
      rw [Check.runFrom_bind_ok _ queried, if_pos rfl, viewed,
        Check.runFrom_bind_ok _ (Check.runFrom_call_ok _ _ _)]
      cases view with
      | none =>
          have nothing : system.propertyOf subject.actual name = none := by
            simp [TypeSystem.propertyOf, found, asked, viewed, Except.toOption]
          rw [nothing]
          exact Check.runFrom_pure none _ _
      | some object =>
          obtain ⟨value, given⟩ := (looksUp t found).property object viewed
          have isValue : system.propertyOf subject.actual name = value := by
            simp [TypeSystem.propertyOf, found, asked, viewed, isTrue, given, Except.toOption]
          rw [isValue]
          dsimp only
          rw [given]
          exact Check.runFrom_call_ok value _ _

theorem runFrom_propertyType (subject : Subject τ) (name : String)
    (looksUp : ∀ t, subject.actual = some t → system.LooksUp t name) (journal : Journal) :
    (subject.propertyType system (.text name)).runFrom .collecting journal =
      (.ok (subject.child system name), journal.collectAll (subject.lookUpFailures system)) := by
  obtain ⟨shown, shown_eq⟩ :=
    TypeSystem.debugText_of_text fun t found => (looksUp t found).text
  exact runFrom_propertyType_of_lookUp shown_eq (subject.runFrom_lookUp name looksUp journal)

/-! ### Rows of look-ups -/

variable (system) in
def navigate (subject : Subject τ) (names : List String) : Check (Subject τ) :=
  names.foldlM (fun subject name => subject.propertyType system (.text name)) subject

variable (system) in
def failuresAlong (subject : Subject τ) : List String → List Failure
  | [] => []
  | name :: rest =>
      subject.lookUpFailures system ++ (subject.child system name).failuresAlong rest

/--
A row of look-ups goes where the graph leads; the failures of each stand behind the earlier. They all
go to the reporter of the first subject, so it does not matter what the other reporters are.
-/
theorem runUnder_navigate {names : List String} {subject : Subject τ}
    {reporters : Handle → Reporter} (collects : reporters subject.reporter = .collecting)
    (navigable : system.Navigable subject.actual names) (journal : Journal) :
    (subject.navigate system names).runUnder reporters journal =
      (.ok (names.foldl (Subject.child system) subject),
        journal.collectAll (subject.failuresAlong system names)) := by
  -- Of the later subjects it is only known that they answer, as the graph leads to them.
  induction names generalizing subject journal with
  | nil => rfl
  | cons name rest ih =>
      have composed := (subject.propertyType_converses system (.text name)).composed
      have first : (subject.propertyType system (.text name)).runUnder reporters journal =
          (.ok (subject.child system name),
            journal.collectAll (subject.lookUpFailures system)) := by
        rw [composed.runUnder_eq, collects]
        exact runFrom_propertyType subject name navigable.head journal
      rw [navigate, List.foldlM_cons, Check.runUnder_bind, first, failuresAlong,
        Journal.collectAll_append]
      refine ih ?_ navigable.tail _
      exact collects

theorem runFrom_navigate {names : List String} {subject : Subject τ}
    (navigable : system.Navigable subject.actual names) (journal : Journal) :
    (subject.navigate system names).runFrom .collecting journal =
      (.ok (names.foldl (Subject.child system) subject),
        journal.collectAll (subject.failuresAlong system names)) :=
  runUnder_navigate rfl navigable journal

theorem failuresAlong_eq (subject : Subject τ) (names : List String) :
    subject.failuresAlong system names =
      (List.range names.length).flatMap fun i =>
        ((names.take i).foldl (Subject.child system) subject).lookUpFailures system := by
  induction names generalizing subject with
  | nil => rfl
  | cons name rest ih =>
      rw [failuresAlong, ih, List.length_cons, List.range_succ_eq_map, List.flatMap_cons,
        List.flatMap_map]
      rfl

theorem foldl_child_actual (subject : Subject τ) (names : List String) :
    (names.foldl (Subject.child system) subject).actual =
      names.foldl system.propertyOf subject.actual := by
  induction names generalizing subject with
  | nil => rfl
  | cons name rest ih => exact ih _

def segment (name : String) : String :=
  ".to_maybe_object_type().get_property_type(" ++ Text.quote name ++ ")"

theorem propertyPath_quote (path name : String) :
    propertyPath path (Text.quote name) = path ++ segment name := by
  unfold propertyPath segment
  rw [String.append_assoc, String.append_assoc, String.append_assoc]

theorem child_path (subject : Subject τ) (name : String) :
    (subject.child system name).path = subject.path ++ segment name :=
  propertyPath_quote subject.path name

theorem foldl_child_path (subject : Subject τ) (names : List String) :
    (names.foldl (Subject.child system) subject).path =
      subject.path ++ String.join (names.map segment) := by
  induction names generalizing subject with
  | nil => simp
  | cons name rest ih =>
      rw [List.foldl_cons, ih, List.map_cons, String.join_cons, child_path, String.append_assoc]

theorem foldl_child_parent (subject : Subject τ) (names : List String) (last : String) :
    ((names ++ [last]).foldl (Subject.child system) subject).parent =
      (system.debugText (names.foldl system.propertyOf subject.actual)).toOption := by
  rw [List.foldl_append, ← foldl_child_actual]
  rfl

theorem foldl_child_reporter (subject : Subject τ) (names : List String) :
    (names.foldl (Subject.child system) subject).reporter = subject.reporter := by
  induction names generalizing subject with
  | nil => rfl
  | cons name rest ih => exact ih _

theorem foldl_child_take_parent (value : Option τ) (reporter : Handle) (names : List String) {i : Nat}
    (within : i ≤ names.length) :
    ((names.take i).foldl (Subject.child system) (Subject.of value reporter)).parent =
      if i = 0 then none
      else (system.debugText ((names.take (i - 1)).foldl system.propertyOf value)).toOption := by
  cases i with
  | zero => rfl
  | succ i =>
      rw [List.take_succ_eq_append_getElem within, foldl_child_parent]
      rfl

theorem foldl_child_take (value : Option τ) (reporter : Handle) (names : List String) {i : Nat}
    (within : i ≤ names.length) :
    (names.take i).foldl (Subject.child system) (Subject.of value reporter) =
      ⟨(names.take i).foldl system.propertyOf value,
        "type" ++ String.join ((names.take i).map segment),
        if i = 0 then none
        else (system.debugText ((names.take (i - 1)).foldl system.propertyOf value)).toOption,
        reporter⟩ := by
  let start := Subject.of value reporter
  have actual : ((names.take i).foldl (Subject.child system) start).actual =
      (names.take i).foldl system.propertyOf value := foldl_child_actual _ _
  have path : ((names.take i).foldl (Subject.child system) start).path =
      "type" ++ String.join ((names.take i).map segment) := foldl_child_path _ _
  have sameReporter : ((names.take i).foldl (Subject.child system) start).reporter = reporter :=
    foldl_child_reporter _ _
  rw [← foldl_child_take_parent value reporter names within, ← path, ← actual]
  exact congrArg (Subject.mk _ _ _) sameReporter

theorem answerFacts_isObjectType (subject : Subject τ) (answer : Value) :
    subject.answerFacts .isObjectType true answer =
      [Fact.of "value of" (.text (subject.path ++ ".is_object_type()")),
        Fact.of "expected" (.bool true), Fact.of "but was" answer] := by
  have question : "." ++ (Query.isObjectType.name ++ "()") = ".is_object_type()" := by decide
  rw [answerFacts, String.append_assoc, String.append_assoc, question]
  rfl

end Subject

/--
A chain of look-ups follows the graph of types from a value, present or absent, whatever the graph
looks like. It ends in the subject of the value that the graph leads to, with the whole way as its
path, the debug string of the value before as its parent and the reporter of the first subject, and
goes on in the same journal. One failure is reported for each look-up on an absent value or on one
that is no object type, in their order, and no other: a property that is missing is not reported, but
each look-up from there on is. Every subject on the way makes its assertions with that one reporter,
whatever the other reporters are.
-/
theorem navigation_follows_graph (system : TypeSystem τ) (value : Option τ) (names : List String)
    (navigable : system.Navigable value names) (reporter : Handle) (reporters : Handle → Reporter)
    (collects : reporters reporter = .collecting) (journal : Journal) :
    let visited (i : Nat) : Option τ := (names.take i).foldl system.propertyOf value
    let subjectAt (i : Nat) : Subject τ :=
      ⟨visited i,
        "type" ++ String.join ((names.take i).map fun name =>
          ".to_maybe_object_type().get_property_type(" ++ Text.quote name ++ ")"),
        if i = 0 then none else (system.debugText (visited (i - 1))).toOption, reporter⟩
    let failures := (List.range names.length).flatMap fun i =>
      (subjectAt i).lookUpFailures system
    ((Subject.of value reporter).navigate system names).runUnder reporters journal =
        (.ok (subjectAt names.length), journal.collectAll failures) ∧
      (journal.collectAll failures).failures = journal.failures ++ failures ∧
      (∀ {α : Type} (next : Subject τ → Check α),
        ((Subject.of value reporter).navigate system names >>= next).runUnder reporters journal =
          (next (subjectAt names.length)).runUnder reporters (journal.collectAll failures)) ∧
      (∀ i < names.length, ∃ shown, system.debugText (visited i) = .ok shown) ∧
      (∀ i t answer shown, visited i = some t → system.ask t .isObjectType = .ok answer →
        system.debugText (visited i) = .ok shown →
        (subjectAt i).lookUpFailures system =
          if answer.isTrue then []
          else
            [(subjectAt i).failure "with_type_of_prop"
              [Fact.of "value of" (.text ((subjectAt i).path ++ ".is_object_type()")),
                Fact.of "expected" (.bool true), Fact.of "but was" answer] shown]) ∧
      (∀ i j, i ≤ j → visited i = none →
        (subjectAt j).lookUpFailures system =
          [(subjectAt j).failure "with_type_of_prop" [Fact.simple "expected a present value"]
            "[None]"]) ∧
      ∀ i (assertion : Assertion τ) (others : Handle → Reporter) (journal : Journal),
        (assertion.perform system (subjectAt i)).runUnder others journal =
          (assertion.perform system (subjectAt i)).runFrom (others reporter) journal := by
  intro visited subjectAt failures
  have led (i : Nat) (within : i ≤ names.length) :
      (names.take i).foldl (Subject.child system) (Subject.of value reporter) = subjectAt i :=
    Subject.foldl_child_take value reporter names within
  have reported : (Subject.of value reporter).failuresAlong system names = failures := by
    rw [Subject.failuresAlong_eq, List.flatMap_def]
    apply congrArg List.flatten
    apply List.map_congr_left
    intro i member
    rw [led i (Nat.le_of_lt (List.mem_range.mp member))]
  have ran : ((Subject.of value reporter).navigate system names).runUnder reporters journal =
      (.ok (subjectAt names.length), journal.collectAll failures) := by
    have final := led names.length (Nat.le_refl _)
    rw [List.take_length] at final
    rw [Subject.runUnder_navigate (by exact collects) (by exact navigable) journal, final, reported]
  refine ⟨ran, Journal.collectAll_failures _ _, ?_, ?_, ?_, ?_, ?_⟩
  · intro α next
    rw [Check.runUnder_bind, ran]
  · intro i within
    apply TypeSystem.debugText_of_text
    intro t found
    have split : names = names.take i ++ names[i] :: names.drop (i + 1) := by
      rw [← List.drop_eq_getElem_cons within, List.take_append_drop]
    exact (navigable _ _ _ split t found).text
  · intro i t answer shown found asked shown_eq
    rw [← Subject.answerFacts_isObjectType]
    exact Subject.lookUpFailures_of_some found asked shown_eq
  · intro i j le absent
    exact Subject.lookUpFailures_of_none (TypeSystem.foldl_propertyOf_eq_none le absent)
  · intro i assertion others journal
    exact (assertion.perform_composed system (subjectAt i)).runUnder_eq others journal

/-! ### A graph that leads back -/

namespace Sample

def loop : Sample :=
  .mock ⟨some "loop", 0⟩
    { className := ⟨"mocks", "Mock"⟩
      text := .gives (.text "loop")
      literal := .gives (.text "<mock>")
      answers := [(.isObjectType, .gives (.bool true))]
      objectView := none
      properties := some [("next", .leads (.named "loop"))]
      subtype := ⟨[], none⟩
      equivalence := ⟨[], none⟩
      equality := none
      hash := .scripted (.gives (.int 0))
      missing := []
      nulled := [] }

def loopSystem : TypeSystem Sample :=
  system [("loop", some loop)]

theorem looksUp_loop {name : String}
    (given : ∃ found, loopSystem.property loop (.text name) = .ok found) :
    ∀ t, some loop = some t → loopSystem.LooksUp t name := by
  rintro t ⟨⟩
  refine ⟨⟨_, rfl⟩, ⟨_, rfl⟩, ⟨_, rfl⟩, ?_⟩
  rintro object ⟨⟩
  exact given

end Sample

/--
The way leads twice around the loop and then to a property that is missing. The missing property is
not reported; the look-up on what is absent is. It goes to the reporter of the first subject, though
all others would raise.
-/
theorem navigation_around_loop :
    let names := ["next", "next", "gone", "next"]
    let reporters (handle : Handle) : Reporter := if handle = 7 then .collecting else .raising
    Sample.loopSystem.Navigable (some Sample.loop) names ∧ reporters 7 = .collecting ∧
      ∃ final reached,
        ((Subject.of (some Sample.loop) 7).navigate Sample.loopSystem names).runUnder
            reporters .empty = (.ok final, reached) ∧
          final.actual = none ∧ final.parent = some "[None]" ∧ final.reporter = 7 ∧
          reached.failures.map Failure.headline = ["expected a present value"] := by
  intro names reporters
  have navigable : Sample.loopSystem.Navigable (some Sample.loop) names :=
    .cons (Sample.looksUp_loop ⟨_, rfl⟩) <| .cons (Sample.looksUp_loop ⟨_, rfl⟩) <|
      .cons (Sample.looksUp_loop ⟨_, rfl⟩) <| .cons (by rintro t ⟨⟩) (.nil _)
  obtain ⟨ran, failures, -⟩ :=
    navigation_follows_graph Sample.loopSystem (some Sample.loop) names navigable 7 reporters rfl
      .empty
  refine ⟨navigable, rfl, _, _, ran, rfl, rfl, rfl, ?_⟩
  rw [failures]
  rfl

end TypeLaws
