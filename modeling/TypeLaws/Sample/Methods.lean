import TypeLaws.Sample.Basic

/-!
The methods of sample values. Those of records go down into the properties: text, hash, equality
and the two relations `isEquivalentTo` and `isSubtypeOf` are recursions over the record.
-/

namespace TypeLaws.Sample

def counterpart (receiver : Sample) : Option Sample → Counterpart
  | none => .absent
  | some other => if receiver.identical other then .itself else .named (other.label.name.getD "")

def Script.offers {σ : Type} (script : Script σ) (method : Method) : Bool :=
  !script.missing.contains method && !script.nulled.contains method &&
    (method != .property || script.properties.isSome)

def Script.call {σ α : Type} (script : Script σ) (method : Method) (outcome : Outcome α) :
    Outcome α :=
  if script.nulled.contains method then .error (.notCallable Value.null.kind)
  else if script.offers method then outcome
  else .error (.noSuchMethod script.className.short method.name)

def Scripted.asText (scripted : Scripted) (method : String) : Outcome String := do
  match ← scripted.outcome with
  | .text s => return s
  | value => throw (.notText method value.kind)

/-- A scripted hash: an integer that fits 64 bits stands, a larger one is reduced. -/
def ScriptedHash.value {σ : Type} (hash : ScriptedHash) (script : Script σ) : Outcome Int :=
  match hash with
  | .missing => .error (.unhashable script.className.short)
  | .scripted result => do
      match (← result.outcome).asInt? with
      | none => throw .hashNotInteger
      | some n =>
          if Value.isWordSized n then return if n = -1 then -2 else n
          else return Value.hashInt n

/--
What is found by going through the properties of a record one by one. A method that raises the
sign for the end of such a row does not end it, but fails it.
-/
def throughRow {α : Type} : Outcome α → Outcome α
  | .error (.raised "StopIteration" _ _) =>
      .error (.raised "RuntimeError" "generator raised StopIteration" false)
  | outcome => outcome

/-- Puts rows in the order of their names and takes the first fault in that order. -/
def inOrder {α : Type} (rows : List (String × Outcome α)) : Outcome (List (String × α)) :=
  (rows.mergeSort fun a b => decide (a.1 ≤ b.1)).mapM fun row => do return (row.1, ← row.2)

mutual

def text : Sample → Outcome String
  | .simple _ _ name => .ok name
  | .salted _ name _ => .ok name
  | .record _ _ properties _ => do
      let rows ← throughRow (inOrder (texts properties))
      let fields := rows.map fun row => row.1 ++ ": " ++ row.2
      return "\x7b" ++ ", ".intercalate fields ++ "\x7d"
  | .mock _ script => script.text.asText "__str__"
  | .bare _ (.text s) => .ok s
  | .bare _ content => .ok content.literal

def texts : List (String × Option Sample) → List (String × Outcome String)
  | [] => []
  | (key, none) :: rest => (key, .ok Value.null.literal) :: texts rest
  | (key, some sample) :: rest => (key, sample.text) :: texts rest

end

def literal : Sample → Outcome String
  | .mock _ script => script.literal.asText "__repr__"
  | .bare _ content => .ok content.literal
  | sample => .ok (sample.className.short ++ "(" ++ Text.quote sample.name ++ ")")

def Family.answer (family : Family) (query : Query) : Value :=
  match family, query with
  | .truthyNumber, .isNumber => .int 1
  | .truthyNumber, .isUnknown => .int 0
  | .number, .isNumber => .bool true
  | .lopsidedNumber, .isNumber => .bool true
  | .string, .isString => .bool true
  | .boolean, .isBoolean => .bool true
  | .unknown, .isUnknown => .bool true
  | .bottom, .isEmpty => .bool true
  | .record, .isObjectType => .bool true
  | _, _ => .bool false

def ask (sample : Sample) (query : Query) : Outcome Value :=
  match sample with
  | .simple _ family _ => .ok (family.answer query)
  | .salted _ _ _ => .ok (Family.salted.answer query)
  | .record _ _ _ isLiteral =>
      .ok (if query = .isLiteralObject then isLiteral else Family.record.answer query)
  | .mock _ script =>
      script.call (.ask query)
        (((script.answers.lookup query).map Scripted.outcome).getD (.ok (.bool false)))
  | .bare _ content => .error (.noSuchMethod content.kind query.name)

def offers (sample : Sample) (method : Method) : Bool :=
  match sample with
  | .simple _ _ _ => method != .property
  | .salted _ _ _ => method != .property
  | .record _ _ _ _ => true
  | .mock _ script => script.offers method
  | .bare _ _ => false

mutual

def hash : Sample → Outcome Int
  | .simple _ family name =>
      match family with
      | .equalityOnly => .error (.unhashable family.className)
      | .colliding => .ok 0
      | _ => .ok (Value.hashText name)
  | .salted _ name salt => ofValue (.tuple [.text name, salt])
  | .record _ _ properties _ => do
      let rows ← throughRow (hashes properties)
      let rows := rows.mergeSort fun a b => decide (a.1 ≤ b.1)
      ofValue (.tuple (rows.map fun row => .tuple [.text row.1, .int row.2]))
  | .mock _ script => script.hash.value script
  | .bare _ content => ofValue content
where
  ofValue (value : Value) : Outcome Int :=
    match value.hash with
    | .ok h => .ok h
    | .error kind => .error (.unhashable kind)

def hashes : List (String × Option Sample) → Outcome (List (String × Int))
  | [] => .ok []
  | (key, none) :: rest => do
      let rows ← hashes rest
      return (key, Value.absentHash) :: rows
  | (key, some sample) :: rest => do
      let h ← sample.hash
      let rows ← hashes rest
      return (key, h) :: rows

end

end TypeLaws.Sample
