import TypeLaws.Proofs.Check.Agreement

/-!
Checks that are put together from calls, records about comparisons, and reports to one reporter. No
other reporter has a say in how they run; whatever that one is, they agree up to the first report,
and they log under two names only.
-/

namespace TypeLaws.Check

inductive Composed (sink : Handle) : {α : Type} → Check α → Prop where
  | pure {α : Type} (value : α) : Composed sink (Pure.pure value)
  | call {α : Type} (outcome : Outcome α) : Composed sink (Check.call outcome)
  | log (message : String) : Composed sink (Check.log ⟨.debug, Log.assertionLogger, message⟩)
  | report (facts : List Fact) (name : String) : Composed sink (Check.report sink facts name)
  | bind {α β : Type} {check : Check α} {next : α → Check β} (first : Composed sink check)
      (later : ∀ value, Composed sink (next value)) : Composed sink (check >>= next)

namespace Composed

variable {α β : Type} {sink : Handle}

theorem runUnder_eq {check : Check α} (composed : Composed sink check)
    (reporters : Handle → Reporter) (journal : Journal) :
    check.runUnder reporters journal = check.runFrom (reporters sink) journal := by
  induction composed generalizing journal with
  | pure value => rfl
  | call outcome => cases outcome <;> rfl
  | log message => rfl
  | report facts name => exact runUnder_report sink facts name reporters journal
  | bind _ _ first later =>
      rw [runUnder_bind, runFrom_bind, first]
      split
      · exact later _ _
      · rfl

theorem agrees {check : Check α} (composed : Composed sink check) : Agrees check := by
  induction composed with
  | pure value => exact Agrees.pure value
  | call outcome => exact Agrees.call outcome
  | log message => exact Agrees.log _
  | report facts name => exact Agrees.report sink facts name
  | bind _ _ first later => exact first.bind later

theorem records {check : Check α} (composed : Composed sink check) (reporter : Reporter)
    (journal : Journal) :
    ∃ added, (check.runFrom reporter journal).2.records = journal.records ++ added ∧
      ∀ record ∈ added,
        record.logger = Log.assertionLogger ∨ record.logger = Log.reporterLogger := by
  induction composed generalizing journal with
  | pure value => exact ⟨[], (List.append_nil _).symm, by simp⟩
  | call outcome =>
      refine ⟨[], ?_, by simp⟩
      rw [List.append_nil]
      cases outcome with
      | ok value => rfl
      | error fault => rfl
  | log message => exact ⟨[⟨.debug, Log.assertionLogger, message⟩], rfl, by simp⟩
  | report facts name =>
      cases reporter with
      | raising =>
          exact ⟨[⟨.debug, Log.reporterLogger, stopMessage name facts⟩], rfl, by simp⟩
      | collecting =>
          exact ⟨[⟨.info, Log.reporterLogger, collectMessage ⟨name, facts⟩⟩], rfl, by simp⟩
  | @bind _ _ check next _ _ first later =>
      obtain ⟨earlier, before, known⟩ := first journal
      rcases ran : check.runFrom reporter journal with ⟨result, reached⟩
      rw [ran] at before
      cases result with
      | error stop =>
          rw [runFrom_bind_error next ran]
          exact ⟨earlier, before, known⟩
      | ok value =>
          obtain ⟨more, after, moreKnown⟩ := later value reached
          rw [runFrom_bind_ok next ran]
          refine ⟨earlier ++ more, ?_, ?_⟩
          · rw [after, before, List.append_assoc]
          · intro record isIn
            rcases List.mem_append.mp isIn with isEarlier | isLater
            · exact known record isEarlier
            · exact moreKnown record isLater

end Composed

end TypeLaws.Check
