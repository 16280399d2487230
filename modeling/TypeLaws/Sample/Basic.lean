import TypeLaws.System.Equality

/-!
Sample values to point assertions at: a small type system of simple types and records, mocks whose
methods follow a script, and plain values, which are not types at all.
-/

namespace TypeLaws.Sample

/-- Which object a sample is: the name it was given, if any, and a number. -/
structure Label where
  name : Option String
  serial : Nat
  deriving DecidableEq

inductive Family where
  | plain
  | number
  | string
  | boolean
  | unknown
  | bottom
  /-- A number type that answers by integers. -/
  | truthyNumber
  /-- A number type that claims to equal every type of the small system. -/
  | lopsidedNumber
  /-- Its hash depends on a salt that its equality ignores. -/
  | salted
  | colliding
  | nullIntolerant
  | equalityOnly
  | record
  deriving DecidableEq

namespace Family

def className : Family → String
  | .plain => "FakeType"
  | .number => "NumberType"
  | .string => "StringType"
  | .boolean => "BooleanType"
  | .unknown => "UnknownType"
  | .bottom => "NoType"
  | .truthyNumber => "TruthyNumberType"
  | .lopsidedNumber => "LopsidedNumberType"
  | .salted => "SaltedHashType"
  | .colliding => "CollidingType"
  | .nullIntolerant => "NullIntolerantType"
  | .equalityOnly => "EqOnlyType"
  | .record => "RecordType"

/-- The name that all members of a family share, if they do. -/
def fixedName? : Family → Option String
  | .number => some "number"
  | .truthyNumber => some "number"
  | .lopsidedNumber => some "number"
  | .string => some "string"
  | .boolean => some "boolean"
  | .unknown => some "?"
  | .bottom => some "None"
  | _ => none

def refines (a b : Family) : Bool :=
  (b = .plain && a ≠ .plain) ||
    (b = .number && (a = .truthyNumber || a = .lopsidedNumber))

end Family

inductive Scripted where
  | gives (value : Value)
  | raises (kind text : String)
  deriving Inhabited

def raised (kind text : String) : Fault :=
  .raised kind text (kind == "TypeError")

def Scripted.outcome : Scripted → Outcome Value
  | .gives value => .ok value
  | .raises kind text => .error (raised kind text)

/-- How a scripted comparison tells its arguments apart. -/
inductive Counterpart where
  | absent
  | itself
  /-- The object of a name; the empty name stands for all objects without one. -/
  | named (name : String)
  deriving DecidableEq

structure Rule where
  cases : List (Counterpart × Scripted)
  otherwise : Option Scripted
  deriving Inhabited

/-- The case of an argument. Without any case the comparison gives false. -/
def Rule.answer (rule : Rule) (counterpart : Counterpart) : Outcome Value :=
  match rule.cases.lookup counterpart, rule.otherwise with
  | some scripted, _ => scripted.outcome
  | none, some scripted => scripted.outcome
  | none, none => .ok (.bool false)

inductive Target (σ : Type) where
  | absent
  | named (name : String)
  | here (sample : σ)
  deriving Inhabited

inductive Entry (σ : Type) where
  | leads (target : Target σ)
  | raises (kind text : String)

inductive ScriptedHash where
  | missing
  | scripted (scripted : Scripted)
  deriving Inhabited

structure Script (σ : Type) where
  className : ClassName
  text : Scripted
  literal : Scripted
  answers : List (Query × Scripted)
  /-- The object view; a mock without one is its own. -/
  objectView : Option (Target σ)
  properties : Option (List (String × Entry σ))
  subtype : Rule
  equivalence : Rule
  equality : Option Rule
  hash : ScriptedHash
  missing : List Method
  nulled : List Method
  deriving Inhabited

end Sample

/-- A sample value. The absent value inside a record is `none`. -/
inductive Sample where
  | simple (label : Sample.Label) (family : Sample.Family) (name : String)
  | salted (label : Sample.Label) (name : String) (salt : Value)
  | record (label : Sample.Label) (name : String) (properties : List (String × Option Sample))
      (isLiteral : Value)
  | mock (label : Sample.Label) (script : Sample.Script Sample)
  | bare (label : Sample.Label) (content : Value)

namespace Sample

def label : Sample → Label
  | .simple label _ _ => label
  | .salted label _ _ => label
  | .record label _ _ _ => label
  | .mock label _ => label
  | .bare label _ => label

def family? : Sample → Option Family
  | .simple _ family _ => some family
  | .salted _ _ _ => some .salted
  | .record _ _ _ _ => some .record
  | .mock _ _ => none
  | .bare _ _ => none

def isFake (sample : Sample) : Bool :=
  sample.family?.isSome

def name : Sample → String
  | .simple _ _ name => name
  | .salted _ name _ => name
  | .record _ name _ _ => name
  | .mock _ _ => ""
  | .bare _ _ => ""

def className : Sample → ClassName
  | .simple _ family _ => ⟨"tests.fakes", family.className⟩
  | .salted _ _ _ => ⟨"tests.fakes", Family.salted.className⟩
  | .record _ _ _ _ => ⟨"tests.fakes", Family.record.className⟩
  | .mock _ script => script.className
  | .bare _ content => ⟨"builtins", content.kind⟩

/--
Two samples are one object. Members of the small type system are compared by their methods, which
never fall back on identity, so it is settled here for mocks and plain values only.
-/
def identical : Sample → Sample → Bool
  | .mock a _, .mock b _ => a = b
  | .bare a _, .bare b _ => a = b
  | _, _ => false

def identicalOrAbsent : Option Sample → Option Sample → Bool
  | none, none => true
  | some a, some b => a.identical b
  | _, _ => false

def refines (a b : Sample) : Bool :=
  match a.family?, b.family? with
  | some f, some g => f.refines g
  | _, _ =>
      match a, b with
      | .bare _ (.bool _), .bare _ (.int _) => true
      | _, _ => false

end Sample

end TypeLaws
