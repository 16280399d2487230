import TypeLaws.Proofs.Check.Run

/-!
What can be said of every failure that a collecting run of a check reports, however the run ends. It
is shown for the parts of a check, and of a later part only for what an earlier one can give.
-/

namespace TypeLaws.Check

variable {α β : Type} {holds : Failure → Prop}

def Gives (check : Check α) (value : α) : Prop :=
  ∃ journal reached, check.runFrom .collecting journal = (.ok value, reached)

/-- All failures that a collecting run adds are of some kind, and it takes none away. -/
def Reports (holds : Failure → Prop) (check : Check α) : Prop :=
  ∀ journal, ∃ reported,
    (check.runFrom .collecting journal).2.failures = journal.failures ++ reported ∧
      ∀ failure ∈ reported, holds failure

namespace Reports

theorem mono {other : Failure → Prop} {check : Check α} (reports : Reports holds check)
    (weaker : ∀ failure, holds failure → other failure) : Reports other check := by
  intro journal
  obtain ⟨reported, failures, all⟩ := reports journal
  exact ⟨reported, failures, fun failure member => weaker failure (all failure member)⟩

theorem pure (value : α) : Reports holds (Pure.pure value : Check α) := by
  intro journal
  exact ⟨[], (List.append_nil _).symm, nofun⟩

theorem call (outcome : Outcome α) : Reports holds (Check.call outcome) := by
  intro journal
  refine ⟨[], ?_, nofun⟩
  rw [List.append_nil]
  cases outcome with
  | ok value => rfl
  | error fault => rfl

theorem log (record : Log.Record) : Reports holds (Check.log record) := by
  intro journal
  exact ⟨[], (List.append_nil _).symm, nofun⟩

theorem report {facts : List Fact} {name : String} (sink : Handle) (holdsHere : holds ⟨name, facts⟩) :
    Reports holds (Check.report sink facts name) := by
  intro journal
  refine ⟨[⟨name, facts⟩], rfl, ?_⟩
  intro failure member
  rw [List.mem_singleton.mp member]
  exact holdsHere

theorem bind {check : Check α} {next : α → Check β} (first : Reports holds check)
    (later : ∀ value, check.Gives value → Reports holds (next value)) :
    Reports holds (check >>= next) := by
  intro journal
  obtain ⟨earlier, before, earlierHold⟩ := first journal
  rcases ran : check.runFrom .collecting journal with ⟨result, reached⟩
  rw [ran] at before
  cases result with
  | error stop =>
      rw [runFrom_bind_error next ran]
      exact ⟨earlier, before, earlierHold⟩
  | ok value =>
      obtain ⟨more, after, moreHold⟩ := later value ⟨journal, reached, ran⟩ reached
      rw [runFrom_bind_ok next ran]
      refine ⟨earlier ++ more, ?_, ?_⟩
      · rw [after, before, List.append_assoc]
      · intro failure member
        rcases List.mem_append.mp member with isEarlier | isLater
        · exact earlierHold failure isEarlier
        · exact moreHold failure isLater

theorem ifThenNext {condition : Prop} [Decidable condition] {check : Check Unit}
    {next : Unit → Check β} (first : Reports holds check) (later : Reports holds (next ())) :
    Reports holds (if condition then check >>= next else next ()) := by
  split
  · exact first.bind fun _ _ => later
  · exact later

end Reports

end TypeLaws.Check
