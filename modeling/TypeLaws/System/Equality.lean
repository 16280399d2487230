import TypeLaws.System.Basic

/-!
Equality of types, in one direction and in both. An equivalence asks the receiver alone what it
says about the parameter: `Equivalence.test`. The full equality operator asks both sides in turn
until one of them decides, the refined class first, and settles by identity if neither does:
`TypeSystem.equal`.
-/

namespace TypeLaws

/--
The answer of the equality operator, given what its two sides say: `left` about the right one and
`right` about the left one. The right side is asked first if its class refines that of the left.
-/
def decideEquality (rightFirst identical : Bool) (left right : Unit → Outcome Value) :
    Outcome Value := do
  let (first, second) := if rightFirst then (right, left) else (left, right)
  match ← first () with
  | .notImplemented =>
      match ← second () with
      | .notImplemented => return .bool identical
      | answer => return answer
  | answer => return answer

namespace TypeSystem

variable {τ : Type} (system : TypeSystem τ)

/-- What one side says about being equal to the other. The absent type knows only itself. -/
def declares : Option τ → Option τ → Outcome Value
  | none, none => .ok (.bool true)
  | none, some _ => .ok .notImplemented
  | some a, p => system.declaresEqual a p

def sameObject : Option τ → Option τ → Bool
  | none, none => true
  | some a, some b => system.identical a b
  | _, _ => false

def refinesClass : Option τ → Option τ → Bool
  | some a, some b => system.refines a b
  | _, _ => false

def equal (a p : Option τ) : Outcome Bool := do
  let answer ← decideEquality (system.refinesClass p a) (system.sameObject a p)
    (fun _ => system.declares a p) (fun _ => system.declares p a)
  return answer.isTrue

end TypeSystem

inductive Equivalence where
  | natural
  /-- Equality of shape, whatever the names. -/
  | structural
  deriving DecidableEq

namespace Equivalence

def all : List Equivalence := [.natural, .structural]

def word : Equivalence → String
  | .natural => "natural"
  | .structural => "structural"

def label : Equivalence → String
  | .natural => "NATURAL"
  | .structural => "STRUCTURAL"

def ofValue? (word : Value) : Option Equivalence :=
  all.find? fun equivalence => word.equal (.text equivalence.word)

def unknownMessage (word : Value) : String :=
  word.literal ++ " is not a valid Equivalence"

variable {τ : Type} (system : TypeSystem τ)

/--
What the method of a present receiver says about the parameter. If its equality method declines,
only the receiver itself is equal to it; the parameter is not asked.
-/
def testPresent (equivalence : Equivalence) (receiver : τ) (parameter : Option τ) :
    Outcome Bool :=
  match equivalence with
  | .natural => do
      match ← system.declaresEqual receiver parameter with
      | .notImplemented => return system.sameObject (some receiver) parameter
      | answer => return answer.isTrue
  | .structural => do
      let answer ← system.isEquivalentTo receiver parameter
      return answer.isTrue

def test (equivalence : Equivalence) : (receiver parameter : Option τ) → Outcome Bool
  | none, parameter => .ok parameter.isNone
  | some receiver, parameter => equivalence.testPresent system receiver parameter

/-- The test without its guard: an absent receiver has an equality method and no other. -/
def testUnguarded (equivalence : Equivalence) :
    (receiver parameter : Option τ) → Outcome Bool
  | none, parameter =>
      match equivalence with
      | .natural => .ok parameter.isNone
      | .structural => .error (.noSuchMethod Value.null.kind Method.equivalence.name)
  | some receiver, parameter => equivalence.testPresent system receiver parameter

def describe (equivalence : Equivalence) (receiver parameter : String) : String :=
  match equivalence with
  | .natural => "(" ++ receiver ++ ") == (" ++ parameter ++ ")"
  | .structural => "(" ++ receiver ++ ").is_equivalent_to((" ++ parameter ++ "), True)"

end Equivalence

end TypeLaws
