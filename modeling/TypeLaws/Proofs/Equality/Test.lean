import TypeLaws.System.Equality

/-!
What an equivalence test gives, from what the methods of the receiver answer. An answer settles a
comparison by its truth; one that declines leaves it to identity.
-/

namespace TypeLaws

/-- The truth of an answer; identity decides where the answer declines to. -/
def Value.settles (identical : Bool) : Value → Bool
  | .notImplemented => identical
  | answer => answer.isTrue

theorem Value.settles_of_ne (identical : Bool) {answer : Value}
    (decides : answer ≠ .notImplemented) : answer.settles identical = answer.isTrue := by
  cases answer <;> first | rfl | exact absurd rfl decides

namespace Equivalence

variable {τ : Type} (system : TypeSystem τ)

theorem natural_test_some {t : τ} {parameter : Option τ} {answer : Value}
    (given : system.declaresEqual t parameter = .ok answer) :
    Equivalence.natural.test system (some t) parameter =
      .ok (answer.settles (system.sameObject (some t) parameter)) := by
  simp only [test, testPresent]
  rw [given]
  cases answer <;> rfl

theorem structural_test_some {t : τ} {parameter : Option τ} {answer : Value}
    (given : system.isEquivalentTo t parameter = .ok answer) :
    Equivalence.structural.test system (some t) parameter = .ok answer.isTrue := by
  simp only [test, testPresent]
  rw [given]
  rfl

end Equivalence

end TypeLaws
