import TypeLaws.Proofs.Check.Extension
import TypeLaws.Proofs.Subject.Composition
import TypeLaws.Session.Run

/-!
One step of a session with a collecting reporter. A step that does not ask the reporter about the
failures responds as if it were alone: it knows the one subject that it is about, and nothing of
what was recorded before. What it reports and keeps is added to what was there.
-/

namespace TypeLaws.Session

variable {τ : Type} (system : TypeSystem τ)

def Step.isClear : Step τ → Bool
  | .clear => true
  | _ => false

/-- The step asks the reporter about the failures, or has it forget them. -/
def Step.asksCollector : Step τ → Bool
  | .verify => true
  | .clear => true
  | .hasFailures => true
  | .failures => true
  | .write _ _ => true
  | _ => false

def Step.on : Step τ → Option String
  | .assert on _ _ => some on
  | .describe on => some on
  | _ => none

def Step.keeps : Step τ → List String
  | .create name _ => [name]
  | .assert _ _ keep => keep.toList
  | _ => []

/-- What a step can know of the subjects made before: the one that it is about. -/
def Step.own (next : Step τ) (subjects : List (String × Subject τ)) : List (String × Subject τ) :=
  subjects.filter fun row => next.on == some row.1

theorem lookup_own (next : Step τ) (subjects : List (String × Subject τ)) {name : String}
    (about : next.on = some name) : (next.own subjects).lookup name = subjects.lookup name := by
  induction subjects with
  | nil => rfl
  | cons row rest ih =>
      rw [Step.own, List.filter_cons, about]
      by_cases same : name = row.1
      · rw [if_pos (by rw [same]; exact beq_self_eq_true _), List.lookup_cons, List.lookup_cons,
          same, beq_self_eq_true]
      · rw [if_neg (by simpa using same), List.lookup_cons, beq_false_of_ne same]
        rw [Step.own, about] at ih
        exact ih

theorem plan_own (reporter : Option Reporter) (subjects : List (String × Subject τ))
    (next : Step τ) :
    plan system reporter (next.own subjects) next = plan system reporter subjects next := by
  cases next with
  | assert on call keep => rw [plan, plan, lookup_own _ subjects rfl]
  | describe on => rw [plan, plan, lookup_own _ subjects rfl]
  | create name subject => rfl
  | report facts name => rfl
  | verify => rfl
  | clear => rfl
  | hasFailures => rfl
  | failures => rfl
  | write suite target => rfl

theorem assertion_composed (subject : Subject τ) (call : Assertion.Call τ)
    (keep : Option String) :
    Check.Composed subject.reporter (assertion system subject call keep) := by
  refine (Check.Composed.call _).bind fun called => ?_
  refine (called.perform_composed system subject).bind fun reply => ?_
  cases reply with
  | nothing => exact Check.Composed.pure _
  | itself => exact Check.Composed.pure _
  | subject child => exact Check.Composed.pure _

theorem plan_composed {reporter : Option Reporter} {subjects : List (String × Subject τ)}
    {next : Step τ} (acts : next.asksCollector = false) {check : Check (Ending τ)}
    (planned : plan system reporter subjects next = some check) :
    ∃ sink, Check.Composed sink check := by
  cases next with
  | create name subject =>
      cases planned
      exact ⟨.ofSession, Check.Composed.pure _⟩
  | assert on call keep =>
      obtain ⟨subject, -, same⟩ := Option.bind_eq_some_iff.mp planned
      cases same
      exact ⟨_, assertion_composed system subject call keep⟩
  | describe on =>
      obtain ⟨subject, -, same⟩ := Option.bind_eq_some_iff.mp planned
      cases same
      exact ⟨.ofSession, Check.Composed.pure _⟩
  | report facts name =>
      cases planned
      exact ⟨_, ((Check.Composed.report facts name).bind fun _ => Check.Composed.pure _).bind
        fun _ => Check.Composed.pure _⟩
  | verify => cases acts
  | clear => cases acts
  | hasFailures => cases acts
  | failures => cases acts
  | write suite target => cases acts

def answerOf : Except Stop (Ending τ) → Answer τ
  | .ok ending => ending.answer
  | .error stop => .stopped stop

def keptBy : Except Stop (Ending τ) → List (String × Subject τ)
  | .ok ending => ending.kept
  | .error _ => []

theorem step_of_plan {reporter : Option Reporter} (state : State τ) {next : Step τ}
    {check : Check (Ending τ)} {result : Except Stop (Ending τ)} {reached : Journal}
    (planned : plan system reporter state.subjects next = some check)
    (ran : check.runFrom (reporter.getD .raising) ⟨state.failures, []⟩ = (result, reached)) :
    step system reporter state next =
      (⟨answerOf result, reached.failures.drop state.failures.length, reached.records⟩,
        ⟨keptBy result ++ state.subjects, reached.failures⟩) := by
  rw [step, planned]
  dsimp only
  rw [ran]
  cases result with
  | ok ending => rfl
  | error stop => rfl

theorem keptBy_sublist {reporter : Reporter} {subjects : List (String × Subject τ)}
    {next : Step τ} {check : Check (Ending τ)} {result : Except Stop (Ending τ)}
    {journal reached : Journal} (acts : next.asksCollector = false)
    (planned : plan system (some reporter) subjects next = some check)
    (ran : check.runFrom reporter journal = (result, reached)) :
    ((keptBy result).map Prod.fst).Sublist next.keeps := by
  cases result with
  | error stop => exact List.nil_sublist _
  | ok ending =>
      cases next with
      | create name subject =>
          cases planned
          cases ran
          exact List.Sublist.refl _
      | assert on call keep =>
          obtain ⟨subject, -, same⟩ := Option.bind_eq_some_iff.mp planned
          cases same
          obtain ⟨called, _, -, performed⟩ := Check.exists_of_runFrom_bind_ok ran
          obtain ⟨reply, _, -, kept⟩ := Check.exists_of_runFrom_bind_ok performed
          cases reply with
          | nothing =>
              cases kept
              exact List.nil_sublist _
          | itself =>
              cases kept
              cases keep <;> exact List.Sublist.refl _
          | subject child =>
              cases kept
              cases keep <;> exact List.Sublist.refl _
      | describe on =>
          obtain ⟨subject, -, same⟩ := Option.bind_eq_some_iff.mp planned
          cases same
          cases ran
          exact List.Sublist.refl _
      | report facts name =>
          cases planned
          obtain ⟨_, _, -, given⟩ := Check.exists_of_runFrom_bind_ok ran
          cases given
          exact List.Sublist.refl _
      | verify => cases acts
      | clear => cases acts
      | hasFailures => cases acts
      | failures => cases acts
      | write suite target => cases acts

/-- What a step responds if its own subject is all that there is, and nothing is recorded. -/
def alone (state : State τ) (next : Step τ) : Response τ :=
  (step system (some .collecting) ⟨next.own state.subjects, []⟩ next).1

/--
A step that does not ask the collector responds as if it were alone. What it reports stands behind
the earlier failures, and what it keeps in front of the earlier subjects.
-/
theorem step_of_acts (state : State τ) {next : Step τ} (acts : next.asksCollector = false) :
    ∃ made, (made.map Prod.fst).Sublist next.keeps ∧
      step system (some .collecting) state next =
        (alone system state next,
          ⟨made ++ state.subjects, state.failures ++ (alone system state next).reported⟩) := by
  -- A plan looks at no subjects but the step's own, so a step that is alone makes the same check.
  cases planned : plan system (some .collecting) state.subjects next with
  | none =>
      have plannedAlone : plan system (some .collecting) (next.own state.subjects) next = none := by
        rw [plan_own, planned]
      refine ⟨[], List.nil_sublist _, ?_⟩
      rw [alone, step, step, planned, plannedAlone, List.nil_append, List.append_nil]
  | some check =>
      have plannedAlone :
          plan system (some .collecting) (next.own state.subjects) next = some check := by
        rw [plan_own, planned]
      obtain ⟨sink, composed⟩ := plan_composed system acts planned
      rcases own : check.runFrom .collecting .empty with ⟨result, added⟩
      have ran := composed.runFrom_eq .collecting ⟨state.failures, []⟩
      rw [own] at ran
      refine ⟨keptBy result, keptBy_sublist system acts planned own, ?_⟩
      rw [alone, step_of_plan system ⟨next.own state.subjects, []⟩ plannedAlone own,
        step_of_plan system state planned ran]
      dsimp only
      rw [Journal.append_failures, List.drop_left, List.length_nil, List.drop_zero]
      rfl

theorem alone_accompanied (state : State τ) {next : Step τ} (acts : next.asksCollector = false) :
    (alone system state next).records.filter (·.level == .info) =
      (alone system state next).reported.map Failure.record := by
  rw [alone]
  cases planned : plan system (some .collecting) (next.own state.subjects) next with
  | none =>
      rw [step, planned]
      rfl
  | some check =>
      rcases own : check.runFrom .collecting .empty with ⟨result, added⟩
      have accompanied : added.Accompanied := by
        obtain ⟨sink, composed⟩ := plan_composed system acts planned
        have empty : Journal.empty.Accompanied := rfl
        have after := composed.accompanied empty
        rw [own] at after
        exact after
      rw [step_of_plan system ⟨next.own state.subjects, []⟩ planned own]
      exact accompanied

end TypeLaws.Session
