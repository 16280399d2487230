import TypeLaws.Subject

/-!
Assertions as data: which one is made of a subject, with its arguments. `Assertion.perform` makes
it.
-/

namespace TypeLaws

inductive Assertion (τ : Type) where
  | isPresent
  | isAbsent
  | is (predicate : Predicate)
  | isSubtypeOf (super : Option τ)
  | textIsEqualTo (expected : Given τ)
  | hasProperty (name : Given τ)
  | propertyType (name : Given τ)
  | lacksProperty (name : Given τ)
  | equality (equivalence : Equivalence) (expectation : Bool) (provided : Option τ)

namespace Assertion

inductive Reply (τ : Type) where
  | nothing
  | itself
  | subject (subject : Subject τ)

variable {τ : Type} (system : TypeSystem τ)

def perform (assertion : Assertion τ) (subject : Subject τ) : Check (Reply τ) := do
  match assertion with
  | .isPresent => subject.isPresent system; return .nothing
  | .isAbsent => subject.isAbsent system; return .nothing
  | .is predicate => subject.is system predicate; return .nothing
  | .isSubtypeOf super => subject.isSubtypeOf system super; return .nothing
  | .textIsEqualTo expected => subject.textIsEqualTo system expected; return .nothing
  | .hasProperty name => subject.hasProperty system name; return .itself
  | .propertyType name => return .subject (← subject.propertyType system name)
  | .lacksProperty name => subject.lacksProperty system name; return .nothing
  | .equality equivalence expectation provided =>
      subject.equality system equivalence expectation provided; return .nothing

structure Argument (τ : Type) where
  asType : Option τ
  given : Given τ

structure Call (τ : Type) where
  name : String
  arguments : List (Argument τ)

/-- The arguments that an assertion takes: none, or one for a parameter of a name. -/
inductive Form (τ : Type) where
  | none (assertion : Assertion τ)
  | ofType (parameter : String) (make : Option τ → Assertion τ)
  | ofText (parameter : String) (make : Given τ → Assertion τ)

def predicates : List Predicate :=
  [.number, .string, .boolean, .unknown, .notUnknown, .notEmpty, .literalObject]

def forms : List (String × Form τ) :=
  [("is_present", .none .isPresent), ("is_absent", .none .isAbsent),
    ("is_subtype_of", .ofType "super_type" .isSubtypeOf),
    ("to_string_is_equal_to", .ofText "type_string" .textIsEqualTo),
    ("is_object_type_with_property", .ofText "prop_name" .hasProperty),
    ("with_type_of_prop", .ofText "prop_name" .propertyType),
    ("is_object_type_without_property", .ofText "prop_name" .lacksProperty)]
  ++ predicates.map (fun predicate => (predicate.name, .none (.is predicate)))
  ++ (Equivalence.all.flatMap fun equivalence => [true, false].map fun expectation =>
      (Subject.equalityName equivalence expectation,
        .ofType "provided" (.equality equivalence expectation)))

def ownerName : String := "TypeSubject"

def Form.apply (name : String) (form : Form τ) (arguments : List (Argument τ)) :
    Outcome (Assertion τ) :=
  let method := ownerName ++ "." ++ name
  match form, arguments with
  | .none assertion, [] => .ok assertion
  | .none _, others => .error (.tooManyArguments method 1 (others.length + 1))
  | .ofType _ make, [argument] => .ok (make argument.asType)
  | .ofText _ make, [argument] => .ok (make argument.given)
  | .ofType parameter _, [] => .error (.missingArgument method parameter)
  | .ofText parameter _, [] => .error (.missingArgument method parameter)
  | _, others => .error (.tooManyArguments method 2 (others.length + 1))

/-- The assertion that a call makes. A subject also has its value, which cannot be called. -/
def ofCall (subject : Subject τ) (call : Call τ) : Outcome (Assertion τ) :=
  match forms.lookup call.name with
  | some form => form.apply call.name call.arguments
  | none =>
      if call.name == "actual" then
        .error (.notCallable (match subject.actual with
          | some t => (system.className t).short
          | none => Value.null.kind))
      else .error (.noSuchMethod ownerName call.name)

end Assertion

end TypeLaws
