import TypeLaws.Proofs.Equality.Verdict
import TypeLaws.Proofs.Session.Agreement

/-!
Methods that raise. The fault of a method ends the operation that called it and nothing else: what
the operation has reported before stays, and is what it reports first if the method does not raise.
The hash check alone minds what is raised, since a type fault tells it that there is no hash.
-/

namespace TypeLaws

variable {τ : Type} (system : TypeSystem τ)

/-- The hash method of the value raises a type fault. -/
def TypeSystem.Unhashable (value : Option τ) : Prop :=
  ∃ t fault, value = some t ∧ system.hash t = .error fault ∧ fault.isTypeFault = true

theorem TypeSystem.answer_hash_eq_error_iff {t : τ} {fault : Fault} :
    system.answer (.hash t) = .error fault ↔
      system.hash t = .error fault ∧ fault.isTypeFault = false := by
  rw [answer, hash?]
  cases system.hash t with
  | ok h => simp
  | error raised =>
      cases typed : raised.isTypeFault with
      | true =>
          simp only [typed, if_true]
          constructor
          · rintro ⟨⟩
          · rintro ⟨⟨⟩, other⟩
            rw [typed] at other
            cases other
      | false =>
          simp only [typed, Bool.false_eq_true, if_false]
          constructor
          · rintro ⟨⟩
            exact ⟨rfl, typed⟩
          · rintro ⟨⟨⟩, -⟩
            rfl

theorem TypeSystem.hash?_of_unhashable {value : Option τ} (unhashable : system.Unhashable value) :
    system.hash? value = .ok none := by
  obtain ⟨t, fault, rfl, raises, typed⟩ := unhashable
  simp only [hash?, raises, typed, if_true]

theorem TypeSystem.raises_of_hash?_error {value : Option τ} {fault : Fault}
    (raises : system.hash? value = .error fault) :
    ∃ t, value = some t ∧ system.hash t = .error fault ∧ fault.isTypeFault = false := by
  cases value with
  | none => cases raises
  | some t => exact ⟨t, rfl, system.answer_hash_eq_error_iff.mp raises⟩

namespace Answers

variable {system} {equivalence : Equivalence} {actual provided : Option τ}

theorem actualHash_of_unhashable (answers : Answers system equivalence actual provided)
    (unhashable : system.Unhashable actual) : answers.actualHash = none :=
  Except.ok.inj (answers.actualHash_eq.symm.trans (system.hash?_of_unhashable unhashable))

theorem providedHash_of_unhashable (answers : Answers system equivalence actual provided)
    (unhashable : system.Unhashable provided) : answers.providedHash = none :=
  Except.ok.inj (answers.providedHash_eq.symm.trans (system.hash?_of_unhashable unhashable))

end Answers

namespace Subject

variable {system} {equivalence : Equivalence} {provided : Option τ}

/--
If one of the two values has no hash, the hash check reports that, unless a hash method raises
something else than a type fault.
-/
theorem runFrom_checkHashes_of_unhashable (subject : Subject τ) (name : String)
    (comparison : Comparison system equivalence subject.actual provided)
    (unhashable : system.Unhashable subject.actual ∨ system.Unhashable provided)
    (journal : Journal) :
    let run := (subject.checkHashes system true name provided comparison.providedFact).runFrom
      .collecting journal
    (∃ t fault, (subject.actual = some t ∨ provided = some t) ∧ system.hash t = .error fault ∧
        fault.isTypeFault = false ∧ run = (.error (.fault fault), journal)) ∨
      ∃ answers : Answers system equivalence subject.actual provided,
        answers.toComparison = comparison ∧
          run = (.ok (), journal.collect (Law.hashed.failure subject name true answers)) := by
  intro run
  cases actualHash_eq : system.hash? subject.actual with
  | error fault =>
      obtain ⟨t, isActual, raises, other⟩ := system.raises_of_hash?_error actualHash_eq
      refine .inl ⟨t, fault, .inl isActual, raises, other, ?_⟩
      simp only [run, checkHashes, if_pos]
      rw [actualHash_eq, Check.runFrom_bind_error _ (Check.runFrom_call_error _ _ _)]
  | ok actualHash =>
      cases providedHash_eq : system.hash? provided with
      | error fault =>
          obtain ⟨t, isProvided, raises, other⟩ := system.raises_of_hash?_error providedHash_eq
          refine .inl ⟨t, fault, .inr isProvided, raises, other, ?_⟩
          simp only [run, checkHashes, if_pos]
          rw [actualHash_eq, Check.runFrom_bind_ok _ (Check.runFrom_call_ok _ _ _),
            providedHash_eq, Check.runFrom_bind_error _ (Check.runFrom_call_error _ _ _)]
      | ok providedHash =>
          let answers : Answers system equivalence subject.actual provided :=
            ⟨comparison, actualHash, providedHash, actualHash_eq, providedHash_eq⟩
          have broken : Law.hashed.broken true answers = true := by
            rcases unhashable with unhashable | unhashable
            · simp [Law.broken, answers.actualHash_of_unhashable unhashable]
            · simp [Law.broken, answers.providedHash_of_unhashable unhashable]
          refine .inr ⟨answers, rfl, ?_⟩
          have ran := answers.runFrom_checkHashes_collecting true name journal
          rw [broken] at ran
          exact ran

theorem runFrom_equality_of_unhashable (subject : Subject τ)
    (compares : Compares system equivalence true provided)
    (comparison : Comparison system equivalence subject.actual provided)
    (unhashable : system.Unhashable subject.actual ∨ system.Unhashable provided)
    (journal : Journal) :
    let name := equalityName equivalence true
    let run := (subject.equality system equivalence true provided).runFrom .collecting journal
    let judged := comparison.judge subject name true journal
    (∃ t fault, (subject.actual = some t ∨ provided = some t) ∧ system.hash t = .error fault ∧
        fault.isTypeFault = false ∧ run = (.error (.fault fault), judged)) ∨
      ∃ answers : Answers system equivalence subject.actual provided,
        answers.toComparison = comparison ∧
          run = (.ok (), judged.collect (Law.hashed.failure subject name true answers)) := by
  intro name run judged
  have ran : run = (subject.checkHashes system true name provided comparison.providedFact).runFrom
      .collecting judged := by
    simp only [run]
    rw [subject.equality_eq_checkEquality true compares,
      subject.runFrom_checkEquality_collecting true _ comparison journal]
  rw [ran]
  exact subject.runFrom_checkHashes_of_unhashable name comparison unhashable judged

end Subject

/--
An operation either calls only methods that go through, and comes to its end, or it ends with the
fault of the first call that raises. What it has reported until then stays behind the failures that
were there before, and begins what it reports with methods that answer in place of raising. A type
fault of a hash method is no such fault: a hash check of values one of which has no hash reports
this with that side shown as unhashable, unless the other hash method raises another fault.
-/
theorem operation_ends_at_first_fault :
    (∀ (subjects : List (Subject τ)) (command : Script.Command τ),
      ∃ sink dialogue, Conducts system sink (fun other => command.perform other subjects) dialogue ∧
        ∀ journal ending reached,
          (command.perform system subjects).runFrom .collecting journal = (ending, reached) →
          (system.GoesThrough (dialogue.events system) ending ∨
            system.BreaksOff (dialogue.events system) ending) ∧
          reached.failures = journal.failures ++ dialogue.failures system ∧
          ∀ other, system.SharesClasses other →
            (∀ call answer, .asked call ∈ dialogue.events system →
              system.answer call = .ok answer → other.answer call = .ok answer) →
            reached.failures <+:
              ((command.perform other subjects).runFrom .collecting journal).2.failures) ∧
    (∀ t fault, system.answer (.hash t) = .error fault ↔
      system.hash t = .error fault ∧ fault.isTypeFault = false) ∧
    ∀ (subject : Subject τ) (equivalence : Equivalence) (provided : Option τ),
      Subject.Compares system equivalence true provided →
      Nonempty (Comparison system equivalence subject.actual provided) →
      system.Unhashable subject.actual ∨ system.Unhashable provided →
      ∀ journal ending reached,
        (subject.equality system equivalence true provided).runFrom .collecting journal =
          (ending, reached) →
        (∃ t fault, (subject.actual = some t ∨ provided = some t) ∧
          system.hash t = .error fault ∧ fault.isTypeFault = false ∧
          ending = .error (.fault fault)) ∨
        ending = .ok () ∧ ∃ earlier failure,
          reached.failures = journal.failures ++ earlier ++ [failure] ∧
          failure.name = Subject.equalityName equivalence true ∧
          failure.headline = Law.hashed.headline ∧
          (system.Unhashable subject.actual →
            Fact.of "hash(actual)" (.text "<unhashable>") ∈ failure.facts) ∧
          (system.Unhashable provided →
            Fact.of "hash(provided)" (.text "<unhashable>") ∈ failure.facts) := by
  refine ⟨fun subjects command => ?_, fun t fault => system.answer_hash_eq_error_iff, ?_⟩
  · obtain ⟨sink, dialogue, conducts⟩ := command.perform_converses system subjects
    refine ⟨sink, dialogue, conducts, fun journal ending reached ran => ?_⟩
    have performed (other : TypeSystem τ) (shares : system.SharesClasses other) :
        command.perform other subjects = dialogue.run sink other := conducts other shares
    rw [performed system (.refl system)] at ran
    have failures := dialogue.runFrom_collecting_failures sink system journal
    have ends := dialogue.goesThrough_or_breaksOff sink system journal
    rw [ran] at failures ends
    refine ⟨ends, failures, fun other shares keeps => ?_⟩
    rw [performed other shares, dialogue.runFrom_collecting_failures sink other journal]
    rw [show reached.failures = _ from failures]
    exact (List.prefix_append_right_inj _).mpr (dialogue.failures_prefix system keeps)
  · rintro subject equivalence provided compares ⟨comparison⟩ unhashable journal ending reached ran
    rcases subject.runFrom_equality_of_unhashable compares comparison unhashable journal with
      ⟨t, fault, isSide, raises, other, broken⟩ | ⟨answers, rfl, reported⟩
    · rw [ran] at broken
      cases broken
      exact .inl ⟨t, fault, isSide, raises, other, rfl⟩
    · rw [ran] at reported
      cases reported
      let name := Subject.equalityName equivalence true
      let failure := Law.hashed.failure subject name true answers
      obtain ⟨judged, judges⟩ := answers.exists_judge_failures subject name true journal
      refine .inr ⟨rfl, judged, failure, ?_, rfl, rfl, fun missing => ?_, fun missing => ?_⟩
      · rw [Journal.collect_failures, judges]
      · have noHash := answers.actualHash_of_unhashable missing
        simp [failure, Law.failure, Subject.failure, Law.facts, noHash, Subject.shownHash]
      · have noHash := answers.providedHash_of_unhashable missing
        simp [failure, Law.failure, Subject.failure, Law.facts, noHash, Subject.shownHash]

namespace Sample

def touchy : Sample :=
  .mock ⟨some "touchy", 0⟩
    { className := ⟨"mocks", "Mock"⟩
      text := .gives (.text "touchy")
      literal := .gives (.text "<mock>")
      answers := [(.isObjectType, .raises "ValueError" "not now")]
      objectView := none
      properties := none
      subtype := ⟨[], none⟩
      equivalence := ⟨[], none⟩
      equality := none
      hash := .missing
      missing := []
      nulled := [] }

def assenting : TypeSystem Sample :=
  { Sample.system [] with
    ask := fun t query => match t.ask query with
      | .ok answer => .ok answer
      | .error _ => .ok (.bool true) }

theorem assenting_answer {call : MethodCall Sample} {answer : call.Answer}
    (given : (Sample.system []).answer call = .ok answer) : assenting.answer call = .ok answer := by
  cases call with
  | ask t query =>
      have asked : t.ask query = .ok answer := given
      change (match t.ask query with
        | .ok answer => Except.ok answer
        | .error _ => .ok (.bool true)) = _
      rw [asked]
      rfl
  | _ => exact given

end Sample

/--
A look-up that breaks off keeps the failure that it has reported, which is also the first one where
it does not break off; a type without a hash is reported as unhashable, even next to itself.
-/
theorem operation_ends_at_first_fault_of_touchy_type :
    let lookUp := Script.Command.assert 0 (.lacksProperty (.text "x"))
    let subjects := [Subject.of (some Sample.touchy)]
    let unhashable := Sample.simple ⟨none, 0⟩ .equalityOnly "x"
    (∃ reached, (lookUp.perform (Sample.system []) subjects).runFrom .collecting .empty =
        (.error (.fault (.raised "ValueError" "not now" false)), reached) ∧
      reached.failures.map Failure.name = ["is_literal_object"] ∧
      reached.failures <+:
        ((lookUp.perform Sample.assenting subjects).runFrom .collecting .empty).2.failures) ∧
      ∃ reached failure, ((Subject.of (some unhashable)).equality (Sample.system []) .natural true
          (some unhashable)).runFrom .collecting .empty = (.ok (), reached) ∧
        failure ∈ reached.failures ∧ failure.headline = Law.hashed.headline ∧
        Fact.of "hash(provided)" (.text "<unhashable>") ∈ failure.facts := by
  intro lookUp subjects unhashable
  obtain ⟨operations, -, hashes⟩ := operation_ends_at_first_fault (Sample.system [])
  constructor
  · obtain ⟨sink, dialogue, -, facts⟩ := operations subjects lookUp
    refine ⟨_, rfl, rfl, ?_⟩
    exact (facts .empty _ _ rfl).2.2 Sample.assenting ⟨rfl, rfl, rfl, rfl⟩
      fun call answer _ given => Sample.assenting_answer given
  · have claims : (Sample.system []).declaresEqual unhashable (some unhashable) =
        .ok (.bool true) := by
      simp [Sample.system, Sample.declares, Sample.declaresByName, unhashable, Sample.isFake,
        Sample.family?]
    have tested := Equivalence.natural_test_some (Sample.system []) claims
    have missing : (Sample.system []).Unhashable (some unhashable) := ⟨_, _, rfl, rfl, rfl⟩
    rcases ran : ((Subject.of (some unhashable)).equality (Sample.system []) .natural true
      (some unhashable)).runFrom .collecting .empty with ⟨ending, reached⟩
    rcases hashes (Subject.of (some unhashable)) .natural (some unhashable)
        (fun _ _ t same => Option.some.inj same ▸ by decide)
        ⟨⟨_, _, _, _, rfl, rfl, tested, tested⟩⟩ (.inr missing) .empty ending reached ran with
      ⟨t, fault, isSide, raises, other, -⟩ |
        ⟨rfl, earlier, failure, failures, -, headline, -, shown⟩
    · have isUnhashable : t = unhashable := by
        rcases isSide with same | same <;> exact (Option.some.inj same).symm
      subst isUnhashable
      cases raises
      cases other
    · refine ⟨reached, failure, rfl, ?_, headline, shown missing⟩
      rw [failures]
      exact List.mem_append_right _ List.mem_cons_self

end TypeLaws
