/-!
Work on a state that may fail. What has been done before a failure stays done, so each part of the
work passes on the state that it has reached, and only a part that succeeds is followed by the next.
-/

namespace TypeLaws.Work

variable {σ ε α β : Type}

theorem run_get_bind (next : σ → ExceptT ε (StateM σ) β) (start : σ) :
    (get >>= next).run.run start = (next start).run.run start :=
  rfl

theorem run_bind (work : ExceptT ε (StateM σ) α) (next : α → ExceptT ε (StateM σ) β) (start : σ) :
    (work >>= next).run.run start =
      match work.run.run start with
      | (.ok value, reached) => (next value).run.run reached
      | (.error fault, reached) => (.error fault, reached) := by
  change (ExceptT.bind work next).run.run start = _
  cases ran : work.run.run start with
  | mk result reached =>
      have here : work start = (result, reached) := ran
      simp only [ExceptT.bind, ExceptT.run, ExceptT.mk, StateT.run, bind, StateT.bind, here]
      cases result with
      | ok value => rfl
      | error fault => rfl

/-- Work relates the state it leaves to the one it starts from if its parts do, failing or not. -/
theorem related_bind (Related : σ → σ → Prop)
    (trans : ∀ {first second third}, Related first second → Related second third →
      Related first third)
    {work : ExceptT ε (StateM σ) α} {next : α → ExceptT ε (StateM σ) β} {start : σ}
    (front : Related start (work.run.run start).2)
    (back : ∀ value reached, Related reached ((next value).run.run reached).2) :
    Related start ((work >>= next).run.run start).2 := by
  rw [run_bind]
  rcases ran : work.run.run start with ⟨result, reached⟩
  rw [ran] at front
  cases result with
  | error fault => exact front
  | ok value => exact trans front (back value reached)

theorem exists_of_run_bind_ok {work : ExceptT ε (StateM σ) α} {next : α → ExceptT ε (StateM σ) β}
    {start last : σ} {answer : β} (succeeded : (work >>= next).run.run start = (.ok answer, last)) :
    ∃ value reached, work.run.run start = (.ok value, reached) ∧
      (next value).run.run reached = (.ok answer, last) := by
  rw [run_bind] at succeeded
  rcases ran : work.run.run start with ⟨result, reached⟩
  rw [ran] at succeeded
  cases result with
  | error fault => cases succeeded
  | ok value => exact ⟨value, reached, rfl, succeeded⟩

theorem bind_eq_ok_iff {work : Except ε α} {next : α → Except ε β} {result : β} :
    work >>= next = .ok result ↔ ∃ value, work = .ok value ∧ next value = .ok result := by
  cases work with
  | error fault => exact ⟨nofun, nofun⟩
  | ok value =>
      constructor
      · intro ran
        exact ⟨value, rfl, ran⟩
      · intro ⟨_, same, ran⟩
        cases same
        exact ran

theorem mapM_some (change : α → Except ε β) (value : α) :
    (some value).mapM change = change value >>= fun changed => .ok (some changed) :=
  map_eq_pure_bind some (change value)

theorem mapM_eq_ok_iff {change : α → Except ε β} {before : Option α}
    {after : Option β} :
    before.mapM change = .ok after ↔ Option.Rel (fun a b => change a = .ok b) before after := by
  cases before with
  | none =>
      constructor
      · intro ran
        cases ran
        exact .none
      · intro related
        cases related
        rfl
  | some value =>
      rw [mapM_some, bind_eq_ok_iff]
      constructor
      · intro ⟨changed, ran, same⟩
        cases same
        exact .some ran
      · intro related
        cases related with
        | some ran => exact ⟨_, ran, rfl⟩

end TypeLaws.Work
