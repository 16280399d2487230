import TypeLaws.Proofs.Check.Composition
import TypeLaws.System.Equality

/-!
Operations as dialogues with the methods of types. All that an operation does is to ask methods, to
report failures, and to log comparisons; what it does next is settled by the answers so far. A
dialogue is such an operation without the types, so one dialogue tells what the operation does with
any methods, and two runs of it can be compared. The fault of a method ends a dialogue there.
-/

namespace TypeLaws

/-! ### Calls of methods -/

inductive MethodCall (τ : Type) where
  | text (t : τ)
  | literal (t : τ)
  | ask (t : τ) (query : Query)
  | objectView (t : τ)
  | property (t : τ) (name : Given τ)
  | isSubtypeOf (t : τ) (super : Option τ)
  | isEquivalentTo (t : τ) (parameter : Option τ)
  | declaresEqual (t : τ) (parameter : Option τ)
  | hash (t : τ)
  | differsFromText (t : τ) (text : String)

/-- What a call gives if it goes through; from a hash method also that there is no hash. -/
def MethodCall.Answer {τ : Type} : MethodCall τ → Type
  | .text _ => String
  | .literal _ => String
  | .ask _ _ => Value
  | .objectView _ => Option τ
  | .property _ _ => Option τ
  | .isSubtypeOf _ _ => Value
  | .isEquivalentTo _ _ => Value
  | .declaresEqual _ _ => Value
  | .hash _ => Option Int
  | .differsFromText _ _ => Bool

namespace TypeSystem

variable {τ : Type}

/-- The answer to a call, or its fault. A type fault of a hash method is an answer. -/
def answer (system : TypeSystem τ) : (call : MethodCall τ) → Outcome call.Answer
  | .text t => system.text t
  | .literal t => system.literal t
  | .ask t query => system.ask t query
  | .objectView t => system.objectView t
  | .property t name => system.property t name
  | .isSubtypeOf t super => system.isSubtypeOf t super
  | .isEquivalentTo t parameter => system.isEquivalentTo t parameter
  | .declaresEqual t parameter => system.declaresEqual t parameter
  | .hash t => system.hash? (some t)
  | .differsFromText t text => system.differsFromText t text

def Settles (system : TypeSystem τ) (call : MethodCall τ) : Prop :=
  ∃ answer, system.answer call = .ok answer

/-- A system of the same values and classes, in which methods can answer otherwise. -/
structure SharesClasses (system other : TypeSystem τ) : Prop where
  className : other.className = system.className
  offers : other.offers = system.offers
  identical : other.identical = system.identical
  absentHash : other.absentHash = system.absentHash

theorem SharesClasses.refl (system : TypeSystem τ) : system.SharesClasses system :=
  ⟨rfl, rfl, rfl, rfl⟩

theorem SharesClasses.isType {system other : TypeSystem τ} (shares : system.SharesClasses other) :
    other.isType = system.isType := by
  funext t
  rw [TypeSystem.isType, TypeSystem.isType, shares.offers]

theorem SharesClasses.sameObject {system other : TypeSystem τ}
    (shares : system.SharesClasses other) (a p : Option τ) :
    other.sameObject a p = system.sameObject a p := by
  cases a <;> cases p <;> simp [TypeSystem.sameObject, shares.identical]

end TypeSystem

/-! ### Dialogues -/

inductive Dialogue (τ α : Type) where
  | done (value : α)
  | ask (call : MethodCall τ) (next : call.Answer → Dialogue τ α)
  | report (failure : Failure) (next : Dialogue τ α)
  | note (message : String) (next : Dialogue τ α)

inductive Event (τ : Type) where
  | asked (call : MethodCall τ)
  | reported (failure : Failure)

def Event.failure? {τ : Type} : Event τ → Option Failure
  | .asked _ => none
  | .reported failure => some failure

namespace TypeSystem

variable {τ α : Type} (system : TypeSystem τ)

/-- All calls go through, and the run comes to its end. -/
def GoesThrough (events : List (Event τ)) (ending : Except Stop α) : Prop :=
  (∃ value, ending = .ok value) ∧ ∀ call, .asked call ∈ events → system.Settles call

/-- The run ends with the fault of the last call, the only one that does not go through. -/
def BreaksOff (events : List (Event τ)) (ending : Except Stop α) : Prop :=
  ∃ before call fault, events = before ++ [.asked call] ∧
    (∀ earlier, .asked earlier ∈ before → system.Settles earlier) ∧
    system.answer call = .error fault ∧ ending = .error (.fault fault)

variable {system}

theorem ends_cons {event : Event τ} {events : List (Event τ)} {ending : Except Stop α}
    (settles : ∀ call, event = .asked call → system.Settles call)
    (ends : system.GoesThrough events ending ∨ system.BreaksOff events ending) :
    system.GoesThrough (event :: events) ending ∨ system.BreaksOff (event :: events) ending := by
  have first {rest : List (Event τ)} (all : ∀ call, .asked call ∈ rest → system.Settles call)
      (call : MethodCall τ) (member : .asked call ∈ event :: rest) : system.Settles call := by
    rcases List.mem_cons.mp member with same | member
    · exact settles call same.symm
    · exact all call member
  rcases ends with ⟨through, all⟩ | ⟨before, call, fault, split, all, broken⟩
  · exact .inl ⟨through, first all⟩
  · exact .inr ⟨event :: before, call, fault, congrArg (event :: ·) split, first all, broken⟩

end TypeSystem

namespace Dialogue

variable {τ α β : Type}

def run (sink : Handle) (system : TypeSystem τ) : Dialogue τ α → Check α
  | .done value => pure value
  | .ask call next => do
      let answer ← Check.call (system.answer call)
      (next answer).run sink system
  | .report failure next => do
      Check.report sink failure.facts failure.name
      next.run sink system
  | .note message next => do
      Check.log ⟨.debug, Log.assertionLogger, message⟩
      next.run sink system

def bind : Dialogue τ α → (α → Dialogue τ β) → Dialogue τ β
  | .done value, later => later value
  | .ask call next, later => .ask call fun answer => (next answer).bind later
  | .report failure next, later => .report failure (next.bind later)
  | .note message next, later => .note message (next.bind later)

/-- What happens in order, up to and with the first call that does not go through. -/
def events (system : TypeSystem τ) : Dialogue τ α → List (Event τ)
  | .done _ => []
  | .ask call next =>
      .asked call :: match system.answer call with
        | .ok answer => (next answer).events system
        | .error _ => []
  | .report failure next => .reported failure :: next.events system
  | .note _ next => next.events system

def failures (system : TypeSystem τ) (dialogue : Dialogue τ α) : List Failure :=
  (dialogue.events system).filterMap Event.failure?

theorem run_bind (sink : Handle) (system : TypeSystem τ) (dialogue : Dialogue τ α)
    (later : α → Dialogue τ β) :
    (dialogue.bind later).run sink system =
      dialogue.run sink system >>= fun value => (later value).run sink system := by
  induction dialogue with
  | done value => rw [bind, run, pure_bind]
  | ask call next ih => simp only [bind, run, bind_assoc, ih]
  | report failure next ih => simp only [bind, run, bind_assoc, ih]
  | note message next ih => simp only [bind, run, bind_assoc, ih]

theorem run_composed (sink : Handle) (system : TypeSystem τ) (dialogue : Dialogue τ α) :
    Check.Composed sink (dialogue.run sink system) := by
  induction dialogue with
  | done value => exact .pure value
  | ask call next ih => exact (Check.Composed.call _).bind ih
  | report failure next ih => exact (Check.Composed.report _ _).bind fun _ => ih
  | note message next ih => exact (Check.Composed.log _).bind fun _ => ih

/-! ### Faults -/

section Faults

variable (sink : Handle) (system : TypeSystem τ)

theorem events_ask_of_error {call : MethodCall τ} {fault : Fault}
    (raises : system.answer call = .error fault) (next : call.Answer → Dialogue τ α) :
    (ask call next).events system = [.asked call] := by
  rw [events, raises]

theorem events_ask_of_ok {call : MethodCall τ} {answer : call.Answer}
    (given : system.answer call = .ok answer) (next : call.Answer → Dialogue τ α) :
    (ask call next).events system = .asked call :: (next answer).events system := by
  rw [events, given]

theorem runFrom_ask_of_error {call : MethodCall τ} {fault : Fault}
    (raises : system.answer call = .error fault) (next : call.Answer → Dialogue τ α)
    (reporter : Reporter) (journal : Journal) :
    ((ask call next).run sink system).runFrom reporter journal = (.error (.fault fault), journal) := by
  rw [run, raises]
  exact Check.runFrom_bind_error _ (Check.runFrom_call_error _ _ _)

theorem runFrom_ask_of_ok {call : MethodCall τ} {answer : call.Answer}
    (given : system.answer call = .ok answer) (next : call.Answer → Dialogue τ α)
    (reporter : Reporter) (journal : Journal) :
    ((ask call next).run sink system).runFrom reporter journal =
      ((next answer).run sink system).runFrom reporter journal := by
  rw [run, given]
  exact Check.runFrom_bind_ok _ (Check.runFrom_call_ok _ _ _)

theorem runFrom_report_collecting (failure : Failure) (next : Dialogue τ α) (journal : Journal) :
    ((report failure next).run sink system).runFrom .collecting journal =
      (next.run sink system).runFrom .collecting (journal.collect failure) :=
  Check.runFrom_bind_ok _ (Check.runFrom_report_collecting _ _ _ _)

theorem runFrom_note (message : String) (next : Dialogue τ α) (reporter : Reporter)
    (journal : Journal) :
    ((note message next).run sink system).runFrom reporter journal =
      (next.run sink system).runFrom reporter
        (journal.note ⟨.debug, Log.assertionLogger, message⟩) :=
  Check.runFrom_bind_ok _ (Check.runFrom_log _ _ _)

theorem runFrom_collecting_failures (dialogue : Dialogue τ α) (journal : Journal) :
    ((dialogue.run sink system).runFrom .collecting journal).2.failures =
      journal.failures ++ dialogue.failures system := by
  induction dialogue generalizing journal with
  | done value => exact (List.append_nil _).symm
  | ask call next ih =>
      cases answered : system.answer call with
      | error fault =>
          rw [runFrom_ask_of_error sink system answered, failures, events_ask_of_error system answered]
          exact (List.append_nil _).symm
      | ok answer =>
          rw [runFrom_ask_of_ok sink system answered, ih answer journal, failures, failures,
            events_ask_of_ok system answered]
          rfl
  | report failure next ih =>
      rw [runFrom_report_collecting, ih, Journal.collect_failures, List.append_assoc]
      rfl
  | note message next ih =>
      rw [runFrom_note, ih]
      rfl

theorem goesThrough_or_breaksOff (dialogue : Dialogue τ α) (journal : Journal) :
    let ending := ((dialogue.run sink system).runFrom .collecting journal).1
    system.GoesThrough (dialogue.events system) ending ∨
      system.BreaksOff (dialogue.events system) ending := by
  induction dialogue generalizing journal with
  | done value => exact .inl ⟨⟨value, rfl⟩, nofun⟩
  | ask call next ih =>
      cases answered : system.answer call with
      | error fault =>
          rw [runFrom_ask_of_error sink system answered, events_ask_of_error system answered]
          exact .inr ⟨[], call, fault, rfl, nofun, answered, rfl⟩
      | ok answer =>
          rw [runFrom_ask_of_ok sink system answered, events_ask_of_ok system answered]
          refine TypeSystem.ends_cons ?_ (ih answer journal)
          rintro _ ⟨⟩
          exact ⟨answer, answered⟩
  | report failure next ih =>
      rw [runFrom_report_collecting]
      exact TypeSystem.ends_cons nofun (ih (journal.collect failure))
  | note message next ih =>
      rw [runFrom_note]
      exact ih _

/--
With methods that give the same answers where these are given, and something else where they raise,
the dialogue begins alike: it goes on after the call that did not go through, if at all.
-/
theorem events_prefix {other : TypeSystem τ} (dialogue : Dialogue τ α)
    (keeps : ∀ call answer, .asked call ∈ dialogue.events system →
      system.answer call = .ok answer → other.answer call = .ok answer) :
    dialogue.events system <+: dialogue.events other := by
  induction dialogue with
  | done value => exact List.prefix_rfl
  | ask call next ih =>
      cases answered : system.answer call with
      | error fault =>
          -- The dialogue ends here; with the other methods it may go on.
          rw [events_ask_of_error system answered, events]
          exact ⟨_, rfl⟩
      | ok answer =>
          rw [events_ask_of_ok system answered] at keeps ⊢
          rw [events_ask_of_ok other (keeps call answer List.mem_cons_self answered)]
          refine (List.prefix_cons_inj _).mpr (ih answer fun later given member => ?_)
          exact keeps later given (List.mem_cons_of_mem _ member)
  | report failure next ih =>
      refine (List.prefix_cons_inj _).mpr (ih fun call answer member => ?_)
      exact keeps call answer (List.mem_cons_of_mem _ member)
  | note message next ih => exact ih keeps

theorem failures_prefix {other : TypeSystem τ} (dialogue : Dialogue τ α)
    (keeps : ∀ call answer, .asked call ∈ dialogue.events system →
      system.answer call = .ok answer → other.answer call = .ok answer) :
    dialogue.failures system <+: dialogue.failures other :=
  (dialogue.events_prefix system keeps).filterMap _

end Faults

end Dialogue

/-! ### Operations -/

/--
With the methods of any system of these classes the operation is this dialogue with them, which
reports to one reporter.
-/
def Conducts {τ α : Type} (system : TypeSystem τ) (sink : Handle)
    (operation : TypeSystem τ → Check α) (dialogue : Dialogue τ α) : Prop :=
  ∀ other, system.SharesClasses other → operation other = dialogue.run sink other

def Converses {τ α : Type} (system : TypeSystem τ) (sink : Handle)
    (operation : TypeSystem τ → Check α) : Prop :=
  ∃ dialogue, Conducts system sink operation dialogue

namespace Converses

variable {τ α β : Type} {system : TypeSystem τ} {sink : Handle}

theorem pure (value : α) : Converses system sink fun _ => (Pure.pure value : Check α) :=
  ⟨.done value, fun _ _ => rfl⟩

theorem ask (call : MethodCall τ) :
    Converses system sink fun other => Check.call (other.answer call) := by
  refine ⟨.ask call .done, fun other _ => ?_⟩
  exact (bind_pure (Check.call (other.answer call))).symm

theorem report (facts : List Fact) (name : String) :
    Converses system sink fun _ => Check.report sink facts name :=
  ⟨.report ⟨name, facts⟩ (.done ()), fun _ _ => (bind_pure (Check.report sink facts name)).symm⟩

theorem log (message : String) :
    Converses system sink fun _ => Check.log ⟨.debug, Log.assertionLogger, message⟩ :=
  ⟨.note message (.done ()), fun _ _ => (bind_pure (Check.log _)).symm⟩

theorem bind {operation : TypeSystem τ → Check α} {next : TypeSystem τ → α → Check β}
    (first : Converses system sink operation)
    (later : ∀ value, Converses system sink fun other => next other value) :
    Converses system sink fun other => operation other >>= next other := by
  obtain ⟨dialogue, conducts⟩ := first
  -- There is a dialogue for each value, so one is chosen for all of them together.
  obtain ⟨rest, conductsRest⟩ := Classical.axiomOfChoice later
  refine ⟨dialogue.bind rest, fun other shares => ?_⟩
  have goesOn : next other = fun value => (rest value).run sink other :=
    funext fun value => conductsRest value other shares
  change operation other >>= next other = _
  rw [conducts other shares, goesOn, Dialogue.run_bind]

theorem congr {operation same : TypeSystem τ → Check α} (converses : Converses system sink same)
    (equal : ∀ other, system.SharesClasses other → operation other = same other) :
    Converses system sink operation := by
  obtain ⟨dialogue, conducts⟩ := converses
  exact ⟨dialogue, fun other shares => (equal other shares).trans (conducts other shares)⟩

theorem callBind {first : TypeSystem τ → Outcome α} {next : TypeSystem τ → α → Outcome β}
    (asks : Converses system sink fun other => Check.call (first other))
    (later : ∀ value, Converses system sink fun other => Check.call (next other value)) :
    Converses system sink fun other => Check.call (first other >>= next other) := by
  refine (asks.bind later).congr fun other _ => ?_
  cases first other <;> rfl

theorem ifThenNext {condition : Prop} [Decidable condition] {operation : TypeSystem τ → Check Unit}
    {next : TypeSystem τ → Unit → Check β} (first : Converses system sink operation)
    (later : Converses system sink fun other => next other ()) :
    Converses system sink fun other =>
      if condition then operation other >>= next other else next other () := by
  split
  · exact first.bind fun _ => later
  · exact later

theorem composed {operation : TypeSystem τ → Check α} (converses : Converses system sink operation) :
    Check.Composed sink (operation system) := by
  obtain ⟨dialogue, conducts⟩ := converses
  rw [conducts system (.refl system)]
  exact dialogue.run_composed sink system

end Converses

end TypeLaws
