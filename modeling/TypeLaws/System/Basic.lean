import TypeLaws.System.Fault
import TypeLaws.Value.Equality

/-!
A system of types under test, seen from outside: for each value of the system, its class, its
texts, and the answers of its methods. Assertions know a type through these alone. An absent type
is `none`.
-/

namespace TypeLaws

inductive Query where
  | isNumber
  | isString
  | isBoolean
  | isUnknown
  | isEmpty
  | isLiteralObject
  | isObjectType
  deriving DecidableEq

def Query.name : Query → String
  | .isNumber => "is_number_value_type"
  | .isString => "is_string_value_type"
  | .isBoolean => "is_boolean_value_type"
  | .isUnknown => "is_unknown_type"
  | .isEmpty => "is_empty_type"
  | .isLiteralObject => "is_literal_object"
  | .isObjectType => "is_object_type"

def Query.all : List Query :=
  [.isNumber, .isString, .isBoolean, .isUnknown, .isEmpty, .isLiteralObject, .isObjectType]

/-- The methods of types that assertions call, comparison and hashing apart. -/
inductive Method where
  | ask (query : Query)
  | objectView
  | subtype
  | equivalence
  | property
  deriving DecidableEq

def Method.name : Method → String
  | .ask query => query.name
  | .objectView => "to_maybe_object_type"
  | .subtype => "is_subtype_of"
  | .equivalence => "is_equivalent_to"
  | .property => "get_property_type"

def Method.ofTypes : List Method :=
  Query.all.map .ask ++ [.objectView, .subtype, .equivalence]

def Method.ofObjectTypes : List Method :=
  Method.ofTypes ++ [.property]

def Method.named? (name : String) : Option Method :=
  Method.ofObjectTypes.find? (·.name == name)

structure ClassName where
  home : String
  qualified : String
  deriving Inhabited

def ClassName.dotted (name : ClassName) : String :=
  name.home ++ "." ++ name.qualified

/-- The name without its home and without the classes around it. -/
def ClassName.short (name : ClassName) : String :=
  String.ofList ((name.qualified.toList.reverse.takeWhile (· != '.')).reverse)

/-- What is handed over where text is expected: text as a rule, but it can be any value. -/
inductive Given (τ : Type) where
  | text (s : String)
  | other (t : τ)

structure TypeSystem (τ : Type) where
  className : τ → ClassName
  text : τ → Outcome String
  literal : τ → Outcome String
  /-- The method exists and is not null. -/
  offers : τ → Method → Bool
  ask : τ → Query → Outcome Value
  objectView : τ → Outcome (Option τ)
  property : τ → Given τ → Outcome (Option τ)
  isSubtypeOf : τ → Option τ → Outcome Value
  isEquivalentTo : τ → Option τ → Outcome Value
  /-- What the first says by itself about being equal to the second. -/
  declaresEqual : τ → Option τ → Outcome Value
  hash : τ → Outcome Int
  /-- The hash of the absent type, which may differ from one run of a program to the next. -/
  absentHash : Int
  identical : τ → τ → Bool
  refines : τ → τ → Bool
  differsFromText : τ → String → Outcome Bool

namespace TypeSystem

variable {τ : Type} (system : TypeSystem τ)

def isType (t : τ) : Bool :=
  Method.ofTypes.all (system.offers t)

def isObjectType (t : τ) : Bool :=
  Method.ofObjectTypes.all (system.offers t)

def absentText : String := "[None]"

/-- The text of a type and its class, so that types that look alike can be told apart. -/
def debugText : Option τ → Outcome String
  | none => .ok absentText
  | some t => do
      let text ← system.text t
      return text ++ " [instanceof " ++ (system.className t).dotted ++ "]"

/-- The hash of a type; nothing if it has none. The absent type has one. -/
def hash? : Option τ → Outcome (Option Int)
  | none => .ok (some system.absentHash)
  | some t =>
      match system.hash t with
      | .ok h => .ok (some h)
      | .error fault => if fault.isTypeFault then .ok none else .error fault

def literalOf : Given τ → Outcome String
  | .text s => .ok (Text.quote s)
  | .other t => system.literal t

def differs : Given τ → String → Outcome Bool
  | .text s, text => .ok (text != s)
  | .other t, text => system.differsFromText t text

end TypeSystem

end TypeLaws
