import TypeLaws.Report.Check
import TypeLaws.System.Equality

/-!
Assertions about one type value. A subject is the value, which may be absent, together with the way
on which it was reached and the reporter of its failures. Each assertion reports what does not hold
and then goes on, so that one assertion can report several broken laws.
-/

namespace TypeLaws

/-- A type value under test. `parent` is the debug string of the type it was looked up on. -/
structure Subject (τ : Type) where
  actual : Option τ
  path : String
  parent : Option String
  reporter : Handle

def Subject.rootPath : String := "type"

def Subject.of {τ : Type} (actual : Option τ) (reporter : Handle := .ofSession) : Subject τ :=
  ⟨actual, Subject.rootPath, none, reporter⟩

inductive Predicate where
  | number
  | string
  | boolean
  | unknown
  | notUnknown
  | notEmpty
  | literalObject
  deriving DecidableEq

namespace Predicate

def query : Predicate → Query
  | .number => .isNumber
  | .string => .isString
  | .boolean => .isBoolean
  | .unknown => .isUnknown
  | .notUnknown => .isUnknown
  | .notEmpty => .isEmpty
  | .literalObject => .isLiteralObject

def expected : Predicate → Bool
  | .notUnknown => false
  | .notEmpty => false
  | _ => true

def name : Predicate → String
  | .number => "is_number"
  | .string => "is_string"
  | .boolean => "is_boolean"
  | .unknown => "is_unknown"
  | .notUnknown => "is_not_unknown"
  | .notEmpty => "is_not_empty"
  | .literalObject => "is_literal_object"

end Predicate

namespace Subject

variable {τ : Type} (system : TypeSystem τ)

open Check (call)

def debugText (subject : Subject τ) : Outcome String :=
  system.debugText subject.actual

def valueOf : String := "value of"

/-- How the subject was reached, for a subject that was looked up on a parent. -/
def context (subject : Subject τ) (facts : List Fact) : List Fact :=
  match subject.parent with
  | none => []
  | some parent =>
      let reached :=
        if facts.any fun fact => fact.label == valueOf then []
        else [Fact.of valueOf (.text subject.path)]
      reached ++ [Fact.of "parent" (.text parent)]

def fail (subject : Subject τ) (name : String) (facts : List Fact) : Check Unit := do
  let actual ← call (subject.debugText system)
  Check.report subject.reporter
    (facts ++ subject.context facts ++ [Fact.of "actual" (.text actual)]) name

/-- The value, unless it is absent, which is a failure. -/
def present (subject : Subject τ) (name : String) : Check (Option τ) := do
  if subject.actual.isNone then
    subject.fail system name [Fact.simple "expected a present value"]
  return subject.actual

def isPresent (subject : Subject τ) : Check Unit := do
  if subject.actual.isNone then
    subject.fail system "is_present" [Fact.simple "expected a present value"]

def isAbsent (subject : Subject τ) : Check Unit := do
  if subject.actual.isSome then
    subject.fail system "is_absent" [Fact.simple "expected an absent value"]

def checkQuery (subject : Subject τ) (name : String) (query : Query) (expected : Bool) :
    Check Bool := do
  match ← subject.present system name with
  | none => return false
  | some actual =>
      let answer ← call (system.ask actual query)
      if answer.isTrue = expected then return true
      else
        subject.fail system name
          [Fact.of valueOf (.text (subject.path ++ "." ++ query.name ++ "()")),
            Fact.of "expected" (.bool expected), Fact.of "but was" answer]
        return false

def is (subject : Subject τ) (predicate : Predicate) : Check Unit := do
  let _ ← subject.checkQuery system predicate.name predicate.query predicate.expected

def isSubtypeOf (subject : Subject τ) (super : Option τ) : Check Unit := do
  match ← subject.present system "is_subtype_of" with
  | none => return ()
  | some actual =>
      let answer ← call (system.isSubtypeOf actual super)
      if answer.isTrue then return ()
      else
        let superText ← call (system.debugText super)
        subject.fail system "is_subtype_of"
          [Fact.of valueOf (.text (subject.path ++ ".is_subtype_of(" ++ superText ++ ")")),
            Fact.of "expected" (.bool true), Fact.of "but was" answer]

def textIsEqualTo (subject : Subject τ) (expected : Given τ) : Check Unit := do
  match ← subject.present system "to_string_is_equal_to" with
  | none => return ()
  | some actual =>
      let text ← call (system.text actual)
      if ← call (system.differs expected text) then
        let wanted ← call (system.literalOf expected)
        subject.fail system "to_string_is_equal_to"
          [Fact.of valueOf (.text ("str(" ++ subject.path ++ ")")),
            Fact.of "expected" (.text wanted), Fact.of "but was" (.text (Text.quote text))]

def propertyPath (path quoted : String) : String :=
  path ++ ".to_maybe_object_type().get_property_type(" ++ quoted ++ ")"

/-- The type of a property; nothing where none can be looked up, which is a failure. -/
def lookUp (subject : Subject τ) (name : Given τ) : Check (Option τ) := do
  match ← subject.present system "with_type_of_prop" with
  | none => return none
  | some actual =>
      if ← subject.checkQuery system "with_type_of_prop" .isObjectType true then
        match ← call (system.objectView actual) with
        | none => return none
        | some object => call (system.property object name)
      else return none

/-- The subject of the type of a property, which reports where this one does. -/
def propertyType (subject : Subject τ) (name : Given τ) : Check (Subject τ) := do
  let path := propertyPath subject.path (← call (system.literalOf name))
  let found ← subject.lookUp system name
  return ⟨found, path, some (← call (subject.debugText system)), subject.reporter⟩

def hasProperty (subject : Subject τ) (name : Given τ) : Check Unit := do
  subject.is system .literalObject
  (← subject.propertyType system name).isPresent system

def lacksProperty (subject : Subject τ) (name : Given τ) : Check Unit := do
  subject.is system .literalObject
  (← subject.propertyType system name).isAbsent system

def shownHash : Option Int → Value
  | none => .text "<unhashable>"
  | some h => .int h

def shownTruth (b : Bool) : String :=
  (Value.bool b).literal

def hashesAgree : Option Int → Option Int → Bool
  | some a, some b => a == b
  | _, _ => false

/--
The three laws of an equality check, each of them reported by itself: the types are equal, or are
not, as expected; equality is symmetric; and types that are to be equal have equal hashes.
-/
def checkEquality (subject : Subject τ) (equivalence : Equivalence) (expectation : Bool)
    (name : String) (provided : Option τ) : Check Unit := do
  let providedText ← call (system.debugText provided)
  let actualText ← call (subject.debugText system)
  let shown := Fact.of "provided" (.text providedText)
  let forward ← call (equivalence.test system subject.actual provided)
  let forwardFact := Fact.of (equivalence.describe actualText providedText) (.bool forward)
  if forward ≠ expectation then
    subject.fail system name
      [Fact.of "types expected to be equal" (.bool expectation), forwardFact, shown]
  let backward ← call (equivalence.test system provided subject.actual)
  Check.log ⟨.debug, Log.assertionLogger,
    equivalence.word ++ " check: " ++ actualText ++ " vs " ++ providedText ++ ": forward="
      ++ shownTruth forward ++ ", backward=" ++ shownTruth backward⟩
  if forward ≠ backward then
    subject.fail system name
      [Fact.simple "equality should be symmetric", forwardFact,
        Fact.of (equivalence.describe providedText actualText) (.bool backward), shown]
  if expectation then
    let actualHash ← call (system.hash? subject.actual)
    let providedHash ← call (system.hash? provided)
    if !hashesAgree actualHash providedHash then
      subject.fail system name
        [Fact.simple "if two types are equal their hashes must also be equal",
          Fact.of "hash(actual)" (shownHash actualHash),
          Fact.of "hash(provided)" (shownHash providedHash), shown]

def equalityName : Equivalence → (expectation : Bool) → String
  | .natural, true => "is_equal_to"
  | .natural, false => "is_not_equal_to"
  | .structural, true => "is_structurally_equal_to"
  | .structural, false => "is_not_structurally_equal_to"

/--
An equality assertion. Equality itself is claimed of types only, so a value that lacks a method of
types is a failure there and is not compared.
-/
def equality (subject : Subject τ) (equivalence : Equivalence) (expectation : Bool)
    (provided : Option τ) : Check Unit := do
  let name := equalityName equivalence expectation
  let stranger := if equivalence = .natural && expectation then provided else none
  match stranger.filter (!system.isType ·) with
  | some stranger =>
      let written ← call (system.literal stranger)
      subject.fail system name
        [Fact.of "expected an instance of" (.text "TypeValue"),
          Fact.of "but was instance of" (.text (system.className stranger).dotted),
          Fact.of "with value" (.text written)]
  | none => subject.checkEquality system equivalence expectation name provided

end Subject

end TypeLaws
