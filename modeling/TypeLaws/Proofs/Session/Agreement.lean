import TypeLaws.Proofs.Subject.Composition
import TypeLaws.Session.Script

/-!
Reporters agree over whole scripts: a collecting and a raising run of one command agree up to the
first report, and an induction over the script carries this to all of them.
-/

namespace TypeLaws.Script

open Check (Agrees)

variable {τ : Type} (system : TypeSystem τ)

theorem Command.perform_converses (subjects : List (Subject τ)) (command : Command τ) :
    ∃ sink, Converses system sink fun other => command.perform other subjects := by
  cases command with
  | create value => exact ⟨.ofSession, .pure _⟩
  | assert on assertion =>
      simp only [Command.perform]
      cases subjects[on]? with
      | none => exact ⟨.ofSession, .pure _⟩
      | some subject =>
          exact ⟨_, (assertion.perform_converses system subject).bind fun _ => .pure _⟩
  | describe on =>
      simp only [Command.perform]
      cases subjects[on]? with
      | none => exact ⟨.ofSession, .pure _⟩
      | some subject =>
          exact ⟨subject.reporter,
            (system.debugText_converses subject.actual).bind fun _ => .pure _⟩

theorem Command.perform_agrees (subjects : List (Subject τ)) (command : Command τ) :
    Agrees (command.perform system subjects) := by
  obtain ⟨sink, converses⟩ := command.perform_converses system subjects
  exact converses.composed.agrees

theorem runFrom_cons_ok {reporter : Reporter} {subjects : List (Subject τ)}
    {journal reached : Journal} {command : Command τ} {result : Result τ}
    (rest : List (Command τ))
    (ran : (command.perform system subjects).runFrom reporter journal = (.ok result, reached)) :
    runFrom system reporter subjects journal (command :: rest) =
      { runFrom system reporter (subjects ++ result.made) reached rest with
        results :=
          result :: (runFrom system reporter (subjects ++ result.made) reached rest).results } := by
  rw [runFrom, ran]

theorem runFrom_cons_error {reporter : Reporter} {subjects : List (Subject τ)}
    {journal reached : Journal} {command : Command τ} {stop : Stop} (rest : List (Command τ))
    (ran : (command.perform system subjects).runFrom reporter journal = (.error stop, reached)) :
    runFrom system reporter subjects journal (command :: rest) = ⟨[], some stop, reached⟩ := by
  rw [runFrom, ran]

def Run.EndsByFault (run : Run τ) : Prop :=
  ∀ stop, run.stop = some stop → ∃ fault, stop = .fault fault

/--
How a raising run goes when the collecting one has added `reported`: the same way if that is
nothing, and else up to the command of the first failure, whose facts it ends with.
-/
def Run.Follows (raised collected : Run τ) : (reported : List Failure) → Prop
  | [] => raised.results = collected.results ∧ raised.stop = collected.stop
  | first :: _ =>
      raised.results <+: collected.results ∧
        raised.stop = some (.unmet first.facts first.render)

theorem runFrom_agrees (script : List (Command τ)) (subjects : List (Subject τ))
    (collecting raising : Journal) :
    ∃ reported,
      (runFrom system .collecting subjects collecting script).journal.failures =
          collecting.failures ++ reported ∧
        (runFrom system .collecting subjects collecting script).EndsByFault ∧
        (runFrom system .raising subjects raising script).Follows
          (runFrom system .collecting subjects collecting script) reported := by
  induction script generalizing subjects collecting raising with
  | nil =>
      refine ⟨[], (List.append_nil _).symm, ?_, rfl, rfl⟩
      intro stop ended
      cases ended
  | cons command rest ih =>
      obtain ⟨result, reached, raisedReached, reported, collected, ended, failures, endsByFault⟩ :=
        (command.perform_agrees system subjects).runs collecting raising
      cases result with
      | error stop =>
          rw [runFrom_cons_error system rest collected]
          refine ⟨reported, failures, ?_, ?_⟩
          · intro other same
            cases same
            exact endsByFault stop rfl
          · cases reported with
            | nil =>
                rw [runFrom_cons_error system rest ended]
                exact ⟨rfl, rfl⟩
            | cons first others =>
                rw [runFrom_cons_error system rest ended]
                exact ⟨List.nil_prefix, rfl⟩
      | ok result =>
          obtain ⟨more, moreFailures, moreEndsByFault, follows⟩ :=
            ih (subjects ++ result.made) reached raisedReached
          rw [runFrom_cons_ok system rest collected]
          refine ⟨reported ++ more, ?_, moreEndsByFault, ?_⟩
          · rw [← List.append_assoc, ← failures]
            exact moreFailures
          · cases reported with
            | cons first others =>
                -- The raising run ends here, whatever the collecting one goes on to do.
                rw [runFrom_cons_error system rest ended]
                exact ⟨List.nil_prefix, rfl⟩
            | nil =>
                rw [runFrom_cons_ok system rest ended]
                cases more with
                | nil => exact ⟨congrArg (result :: ·) follows.1, follows.2⟩
                | cons first others =>
                    exact ⟨(List.prefix_cons_inj result).mpr follows.1, follows.2⟩

/-- The commands that a raising run completes report nothing in a collecting one. -/
theorem runFrom_take_collecting (script : List (Command τ)) (subjects : List (Subject τ))
    (collecting raising : Journal) :
    let completed := (runFrom system .raising subjects raising script).results
    ∃ reached,
      runFrom system .collecting subjects collecting (script.take completed.length) =
          ⟨completed, none, reached⟩ ∧
        reached.failures = collecting.failures := by
  induction script generalizing subjects collecting raising with
  | nil => exact ⟨collecting, rfl, rfl⟩
  | cons command rest ih =>
      obtain ⟨result, reached, raisedReached, reported, collected, ended, failures, -⟩ :=
        (command.perform_agrees system subjects).runs collecting raising
      cases reported with
      | cons first others =>
          rw [runFrom_cons_error system rest ended]
          exact ⟨collecting, rfl, rfl⟩
      | nil =>
          cases result with
          | error stop =>
              rw [runFrom_cons_error system rest ended]
              exact ⟨collecting, rfl, rfl⟩
          | ok value =>
              obtain ⟨last, completed, unchanged⟩ :=
                ih (subjects ++ value.made) reached raisedReached
              rw [runFrom_cons_ok system rest ended]
              refine ⟨last, ?_, ?_⟩
              · rw [List.length_cons, List.take_succ_cons,
                  runFrom_cons_ok system _ collected, completed]
              · rw [unchanged, failures, List.append_nil]

theorem Run.verified_isSome (run : Run τ) :
    run.verified.isSome ↔ run.stop.isSome ∨ run.journal.failures ≠ [] := by
  unfold Run.verified
  cases run.stop with
  | some stop => simp
  | none =>
      cases failures : run.journal.failures with
      | nil => simp [Collector.runFrom_verify_collecting, failures]
      | cons first others => simp [Collector.runFrom_verify_collecting, failures]

/--
A raising run of a script ends by its reporter just when a collecting run records a failure, with
the facts and the text of the first one. The commands before give the same results in both, and
record nothing. If nothing is recorded at all, both runs are the same. So a raising run ends early
just when a collecting one that is verified at its end does.
-/
theorem raising_run_shows_first_failure (script : List (Command τ)) :
    let collected := run system .collecting script
    let raised := run system .raising script
    ((∃ facts text, raised.stop = some (.unmet facts text)) ↔
        collected.journal.failures ≠ []) ∧
      (match collected.journal.failures with
        | [] =>
            raised.results = collected.results ∧ raised.stop = collected.stop ∧
              (collected.stop = none ∨ ∃ fault, collected.stop = some (.fault fault))
        | first :: _ =>
            raised.stop = some (.unmet first.facts first.render) ∧
              raised.results <+: collected.results ∧
              ∃ reached,
                run system .collecting (script.take raised.results.length) =
                    ⟨raised.results, none, reached⟩ ∧
                  reached.failures = []) ∧
      (collected.verified.isSome ↔ raised.stop.isSome) := by
  intro collected raised
  obtain ⟨reported, failures, endsByFault, follows⟩ :=
    runFrom_agrees system script [] .empty .empty
  change collected.journal.failures = reported at failures
  change collected.EndsByFault at endsByFault
  change raised.Follows collected reported at follows
  rw [Run.verified_isSome, failures]
  cases reported with
  | nil =>
      obtain ⟨sameResults, sameStop⟩ := follows
      refine ⟨?_, ⟨sameResults, sameStop, ?_⟩, ?_⟩
      · constructor
        · rintro ⟨facts, text, unmet⟩
          obtain ⟨fault, impossible⟩ := endsByFault _ (sameStop.symm.trans unmet)
          cases impossible
        · intro nonempty
          exact absurd rfl nonempty
      · cases stopped : collected.stop with
        | none => exact .inl rfl
        | some stop =>
            obtain ⟨fault, rfl⟩ := endsByFault stop stopped
            exact .inr ⟨fault, rfl⟩
      · rw [sameStop]
        simp
  | cons first others =>
      obtain ⟨earlier, stopped⟩ := follows
      have before := runFrom_take_collecting system script [] .empty .empty
      refine ⟨?_, ⟨stopped, earlier, before⟩, ?_⟩
      · exact ⟨fun _ => List.cons_ne_nil _ _, fun _ => ⟨_, _, stopped⟩⟩
      · rw [stopped]
        simp

end TypeLaws.Script
