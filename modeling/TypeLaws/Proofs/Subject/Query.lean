import TypeLaws.Proofs.Subject.Failure

/-!
A question put to a subject, under a collecting reporter: an absent subject is reported and not
asked, and a present one is reported if its answer is not the expected one.
-/

namespace TypeLaws

def Journal.collectAll (journal : Journal) (failures : List Failure) : Journal :=
  failures.foldl Journal.collect journal

namespace Journal

theorem collectAll_append (journal : Journal) (first second : List Failure) :
    journal.collectAll (first ++ second) = (journal.collectAll first).collectAll second :=
  List.foldl_append

@[simp]
theorem collectAll_failures (journal : Journal) (failures : List Failure) :
    (journal.collectAll failures).failures = journal.failures ++ failures := by
  induction failures generalizing journal with
  | nil => exact (List.append_nil _).symm
  | cons failure rest ih =>
      rw [collectAll, List.foldl_cons, ← collectAll, ih, collect_failures, List.append_assoc]
      rfl

end Journal

variable {τ : Type}

namespace TypeSystem

variable (system : TypeSystem τ)

/-- Whether a value is there and says yes to a question. -/
def affirms (value : Option τ) (query : Query) : Bool :=
  match value with
  | none => false
  | some t =>
      match system.ask t query with
      | .ok answer => answer.isTrue
      | .error _ => false

variable {system}

theorem affirms_of_ask {t : τ} {query : Query} {answer : Value}
    (asked : system.ask t query = .ok answer) :
    system.affirms (some t) query = answer.isTrue := by
  rw [affirms.eq_def]
  dsimp only
  rw [asked]

theorem affirms_eq_true_iff {value : Option τ} {query : Query} :
    system.affirms value query = true ↔
      ∃ t answer, value = some t ∧ system.ask t query = .ok answer ∧ answer.isTrue = true := by
  cases value with
  | none => simp [affirms]
  | some t => cases asked : system.ask t query <;> simp [affirms, asked]

end TypeSystem

namespace Subject

variable {system : TypeSystem τ}

def absenceFacts : List Fact := [Fact.simple "expected a present value"]

def answerFacts (subject : Subject τ) (query : Query) (expected : Bool) (answer : Value) :
    List Fact :=
  [Fact.of valueOf (.text (subject.path ++ "." ++ query.name ++ "()")),
    Fact.of "expected" (.bool expected), Fact.of "but was" answer]

theorem runFrom_present_of_none {subject : Subject τ} (absent : subject.actual = none)
    (name : String) (journal : Journal) :
    (subject.present system name).runFrom .collecting journal =
      (.ok none, journal.collect (subject.failure name absenceFacts TypeSystem.absentText)) := by
  have shown : subject.debugText system = .ok TypeSystem.absentText := by
    rw [debugText, absent]
    rfl
  have failed := subject.runFrom_fail_collecting system name absenceFacts shown journal
  unfold present
  rw [absent, if_pos Option.isNone_none]
  exact Check.runFrom_bind_ok _ failed

theorem runFrom_present_of_some {subject : Subject τ} {t : τ} (found : subject.actual = some t)
    (name : String) (reporter : Reporter) (journal : Journal) :
    (subject.present system name).runFrom reporter journal = (.ok (some t), journal) := by
  unfold present
  rw [found]
  rfl

theorem runFrom_checkQuery_of_none {subject : Subject τ} (absent : subject.actual = none)
    (name : String) (query : Query) (expected : Bool) (journal : Journal) :
    (subject.checkQuery system name query expected).runFrom .collecting journal =
      (.ok false, journal.collect (subject.failure name absenceFacts TypeSystem.absentText)) := by
  unfold checkQuery
  rw [Check.runFrom_bind_ok _ (runFrom_present_of_none absent name journal)]
  rfl

theorem runFrom_checkQuery_of_some {subject : Subject τ} {t : τ} (found : subject.actual = some t)
    {query : Query} {answer : Value} (answered : system.ask t query = .ok answer)
    {actualText : String} (shown : subject.debugText system = .ok actualText) (name : String)
    (expected : Bool) (journal : Journal) :
    (subject.checkQuery system name query expected).runFrom .collecting journal =
      (.ok (decide (answer.isTrue = expected)),
        journal.collectIf (decide (answer.isTrue ≠ expected))
          (subject.failure name (subject.answerFacts query expected answer) actualText)) := by
  unfold checkQuery
  rw [Check.runFrom_bind_ok _ (runFrom_present_of_some found name .collecting journal)]
  dsimp only
  rw [answered, Check.runFrom_bind_ok _ (Check.runFrom_call_ok _ _ _)]
  by_cases holds : answer.isTrue = expected
  · rw [if_pos holds, decide_eq_true holds, decide_eq_false (not_not_intro holds)]
    rfl
  · rw [if_neg holds, decide_eq_false holds, decide_eq_true holds,
      Check.runFrom_bind_ok _ (subject.runFrom_fail_collecting system name _ shown journal)]
    rfl

variable (system) in
/-- The failures of a question that a subject has to affirm: one, unless it does. -/
def refusals (subject : Subject τ) (name : String) (query : Query) : List Failure :=
  match subject.actual with
  | none => [subject.failure name absenceFacts TypeSystem.absentText]
  | some t =>
      match system.ask t query, system.debugText (some t) with
      | .ok answer, .ok actualText =>
          if answer.isTrue then []
          else [subject.failure name (subject.answerFacts query true answer) actualText]
      | _, _ => []

theorem refusals_of_none {subject : Subject τ} (absent : subject.actual = none) (name : String)
    (query : Query) :
    subject.refusals system name query =
      [subject.failure name absenceFacts TypeSystem.absentText] := by
  rw [refusals, absent]

theorem refusals_of_some {subject : Subject τ} {t : τ} {query : Query} {answer : Value}
    {actualText : String} (found : subject.actual = some t)
    (asked : system.ask t query = .ok answer)
    (shown : system.debugText subject.actual = .ok actualText) (name : String) :
    subject.refusals system name query =
      if answer.isTrue then []
      else [subject.failure name (subject.answerFacts query true answer) actualText] := by
  rw [found] at shown
  rw [refusals, found]
  dsimp only
  rw [asked, shown]

theorem runFrom_checkQuery_true {subject : Subject τ} {query : Query}
    (answers : ∀ t, subject.actual = some t → ∃ answer, system.ask t query = .ok answer)
    {actualText : String} (shown : subject.debugText system = .ok actualText) (name : String)
    (journal : Journal) :
    (subject.checkQuery system name query true).runFrom .collecting journal =
      (.ok (system.affirms subject.actual query),
        journal.collectAll (subject.refusals system name query)) := by
  cases found : subject.actual with
  | none =>
      rw [runFrom_checkQuery_of_none found, refusals_of_none found]
      rfl
  | some t =>
      obtain ⟨answer, asked⟩ := answers t found
      rw [runFrom_checkQuery_of_some found asked shown, refusals_of_some found asked shown,
        TypeSystem.affirms_of_ask asked]
      cases answer.isTrue <;> rfl

theorem map_name_refusals {subject : Subject τ} {query : Query}
    (answers : ∀ t, subject.actual = some t → ∃ answer, system.ask t query = .ok answer)
    {actualText : String} (shown : subject.debugText system = .ok actualText) (name : String) :
    (subject.refusals system name query).map Failure.name =
      if system.affirms subject.actual query then [] else [name] := by
  cases found : subject.actual with
  | none =>
      rw [refusals_of_none found]
      rfl
  | some t =>
      obtain ⟨answer, asked⟩ := answers t found
      rw [refusals_of_some found asked shown, TypeSystem.affirms_of_ask asked]
      cases answer.isTrue <;> rfl

end Subject

end TypeLaws
