import TypeLaws.Proofs.Check.Reports
import TypeLaws.Proofs.Subject.Composition
import TypeLaws.Proofs.Subject.Query

/-!
How a failure says of which subject it is. Every assertion hands its own facts to the subject, which
adds the way on which it was reached and its value. `Fits` is what own facts have to be for that;
`Introduces` is what holds of the failure then.
-/

namespace TypeLaws

def Failure.labelled (failure : Failure) (label : String) : List Fact :=
  failure.facts.filter (·.label == label)

namespace Fact

@[simp]
theorem of_label (label : String) (value : Value) : (Fact.of label value).label = label := by
  cases value <;> rfl

@[simp]
theorem of_isSimple (label : String) (value : Value) : (Fact.of label value).isSimple = false := by
  cases value <;> rfl

/-- The fact does not pass for one about how a subject was reached. -/
structure IsPlain (fact : Fact) : Prop where
  notParent : fact.label ≠ "parent"
  notValueOf : fact.label ≠ "value of"

structure IsDetail (fact : Fact) : Prop extends IsPlain fact where
  valued : fact.isSimple = false

theorem isDetail_of {label : String} (notParent : label ≠ "parent")
    (notValueOf : label ≠ "value of") (value : Value) : (Fact.of label value).IsDetail :=
  ⟨⟨by rwa [of_label], by rwa [of_label]⟩, of_isSimple label value⟩

theorem filter_parent_of_plain {facts : List Fact} (plain : ∀ fact ∈ facts, fact.IsPlain) :
    facts.filter (·.label == "parent") = [] := by
  rw [List.filter_eq_nil_iff]
  intro fact member same
  exact (plain fact member).notParent (eq_of_beq same)

theorem filter_valueOf_of_plain {facts : List Fact} (plain : ∀ fact ∈ facts, fact.IsPlain) :
    facts.filter (·.label == "value of") = [] := by
  rw [List.filter_eq_nil_iff]
  intro fact member same
  exact (plain fact member).notValueOf (eq_of_beq same)

theorem isDetail_describe (equivalence : Equivalence) (receiver parameter : String)
    (value : Value) : (Fact.of (equivalence.describe receiver parameter) value).IsDetail := by
  have opens : (equivalence.describe receiver parameter).toList.head? = some '(' := by
    cases equivalence <;> simp [Equivalence.describe]
  apply isDetail_of
  · intro same
    rw [same] at opens
    exact absurd opens (by decide)
  · intro same
    rw [same] at opens
    exact absurd opens (by decide)

end Fact

namespace Subject

variable {τ : Type} (system : TypeSystem τ)

/-- The facts are such that, in a failure of the subject, its way is told once. -/
structure Fits (subject : Subject τ) (facts : List Fact) : Prop where
  nonempty : facts ≠ []
  noParent : facts.filter (·.label == "parent") = []
  valueOf : facts.filter (·.label == "value of") = [] ∨
    ∃ before after, facts.filter (·.label == "value of") =
      [Fact.of "value of" (.text (before ++ subject.path ++ after))]
  valued : ∀ fact ∈ facts.tail, fact.isSimple = false

/--
The failure ends with the value of the subject. If the subject was looked up on a parent, the
failure tells its way and its parent, each exactly once; otherwise it tells of no parent.
-/
structure Introduces (subject : Subject τ) (failure : Failure) : Prop where
  actual : ∃ front text, subject.debugText system = .ok text ∧
    failure.facts = front ++ [Fact.of "actual" (.text text)]
  top : subject.parent = none →
    failure.labelled "parent" = [] ∧ (failure.labelled "value of").length ≤ 1
  nested : ∀ parent, subject.parent = some parent →
    (∃ front actual, failure.facts = front ++ [Fact.of "parent" (.text parent), actual]) ∧
      failure.labelled "parent" = [Fact.of "parent" (.text parent)] ∧
      ∃ before after, failure.labelled "value of" =
        [Fact.of "value of" (.text (before ++ subject.path ++ after))]
  valued : ∀ fact ∈ failure.facts.tail, fact.isSimple = false

variable {system}

theorem fits_of_plain {subject : Subject τ} {first : Fact} {rest : List Fact}
    (plain : first.IsPlain) (details : ∀ fact ∈ rest, fact.IsDetail) :
    subject.Fits (first :: rest) := by
  have allPlain : ∀ fact ∈ first :: rest, fact.IsPlain :=
    List.forall_mem_cons.mpr ⟨plain, fun fact member => (details fact member).toIsPlain⟩
  exact
    { nonempty := List.cons_ne_nil _ _
      noParent := Fact.filter_parent_of_plain allPlain
      valueOf := .inl (Fact.filter_valueOf_of_plain allPlain)
      valued := fun fact member => (details fact member).valued }

theorem fits_of_valueOf {subject : Subject τ} {text : String} {rest : List Fact}
    (tells : ∃ before after, text = before ++ subject.path ++ after)
    (details : ∀ fact ∈ rest, fact.IsDetail) :
    subject.Fits (Fact.of valueOf (.text text) :: rest) := by
  have restPlain : ∀ fact ∈ rest, fact.IsPlain :=
    fun fact member => (details fact member).toIsPlain
  obtain ⟨before, after, rfl⟩ := tells
  refine
    { nonempty := List.cons_ne_nil _ _
      noParent := ?_
      valueOf := .inr ⟨before, after, ?_⟩
      valued := fun fact member => (details fact member).valued }
  · rw [List.filter_cons_of_neg (by rw [Fact.of_label]; decide),
      Fact.filter_parent_of_plain restPlain]
  · rw [List.filter_cons_of_pos (by rw [Fact.of_label]; decide),
      Fact.filter_valueOf_of_plain restPlain]
    rfl

theorem context_of_none {subject : Subject τ} (top : subject.parent = none) (facts : List Fact) :
    subject.context facts = [] := by
  rw [context, top]

theorem context_of_some {subject : Subject τ} {parent : String}
    (nested : subject.parent = some parent) (facts : List Fact) :
    subject.context facts =
      (if facts.filter (·.label == "value of") = [] then
        [Fact.of "value of" (.text subject.path)] else []) ++
        [Fact.of "parent" (.text parent)] := by
  rw [context, nested]
  change (if facts.any (·.label == "value of") then []
    else [Fact.of "value of" (.text subject.path)]) ++ [_] = _
  by_cases told : facts.any (·.label == "value of")
  · rw [if_pos told, if_neg]
    intro nothing
    obtain ⟨fact, member, labelled⟩ := List.any_eq_true.mp told
    exact List.filter_eq_nil_iff.mp nothing fact member labelled
  · rw [if_neg told, if_pos]
    rw [List.filter_eq_nil_iff]
    intro fact member labelled
    exact told (List.any_eq_true.mpr ⟨fact, member, labelled⟩)

theorem context_valued (subject : Subject τ) (facts : List Fact) :
    ∀ fact ∈ subject.context facts, fact.isSimple = false := by
  cases parent : subject.parent with
  | none =>
      rw [context_of_none parent]
      exact nofun
  | some _ =>
      rw [context_of_some parent]
      intro fact member
      rcases List.mem_append.mp member with isPath | isParent
      · split at isPath
        · rw [List.mem_singleton.mp isPath, Fact.of_isSimple]
        · cases isPath
      · rw [List.mem_singleton.mp isParent, Fact.of_isSimple]

theorem labelled_failure {label : String} (other : label ≠ "actual") (subject : Subject τ)
    (name : String) (facts : List Fact) (actualText : String) :
    (subject.failure name facts actualText).labelled label =
      facts.filter (·.label == label) ++ (subject.context facts).filter (·.label == label) := by
  have last : [Fact.of "actual" (.text actualText)].filter (·.label == label) = [] := by
    rw [List.filter_cons_of_neg, List.filter_nil]
    rw [Fact.of_label, beq_eq_false_iff_ne.mpr other.symm]
    decide
  rw [Failure.labelled, failure, List.filter_append, List.filter_append, last, List.append_nil]

theorem introduces_failure {subject : Subject τ} {facts : List Fact} (fits : subject.Fits facts)
    (name : String) {actualText : String} (shown : subject.debugText system = .ok actualText) :
    subject.Introduces system (subject.failure name facts actualText) where
  actual := ⟨_, actualText, shown, rfl⟩
  top := by
    intro top
    rw [labelled_failure (by decide), labelled_failure (by decide), context_of_none top,
      fits.noParent]
    refine ⟨rfl, ?_⟩
    rw [List.filter_nil, List.append_nil]
    rcases fits.valueOf with nothing | ⟨before, after, told⟩
    · rw [nothing]
      exact Nat.zero_le 1
    · rw [told]
      exact Nat.le_refl 1
  nested := by
    intro parent nested
    have context := context_of_some nested facts
    refine ⟨?_, ?_, ?_⟩
    · refine ⟨facts ++ if facts.filter (·.label == "value of") = [] then
        [Fact.of "value of" (.text subject.path)] else [], Fact.of "actual" (.text actualText), ?_⟩
      rw [failure, context, ← List.append_assoc, List.append_assoc _ [_] [_]]
      rfl
    · rw [labelled_failure (by decide), context, fits.noParent, List.filter_append]
      split <;> rfl
    · -- The context tells the way just when the subject's own facts do not.
      rw [labelled_failure (by decide), context, List.filter_append]
      rcases fits.valueOf with nothing | ⟨before, after, told⟩
      · refine ⟨"", "", ?_⟩
        rw [if_pos nothing, nothing, String.empty_append, String.append_empty]
        rfl
      · refine ⟨before, after, ?_⟩
        rw [if_neg (by rw [told]; exact List.cons_ne_nil _ _), told]
        rfl
  valued := by
    intro fact member
    rw [failure, List.append_assoc, List.tail_append_of_ne_nil fits.nonempty] at member
    rcases List.mem_append.mp member with own | added
    · exact fits.valued fact own
    · rcases List.mem_append.mp added with isContext | isActual
      · exact subject.context_valued facts fact isContext
      · rw [List.mem_singleton.mp isActual, Fact.of_isSimple]

end Subject

end TypeLaws
