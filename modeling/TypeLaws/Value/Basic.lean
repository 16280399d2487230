import TypeLaws.Number.Shortest
import TypeLaws.Text.Quoted

/-!
Plain values: what the methods of a type under test hand back, what facts show, and what settings
are made of. `Value.literal` is a value as it is written inside other values; `Value.asText` is a
value as it is printed by itself, which differs for text only.
-/

namespace TypeLaws

inductive Value where
  | null
  | bool (b : Bool)
  | int (n : Int)
  | float (x : Binary64)
  | text (s : String)
  | brokenText (points : Text) (broken : points.isSound = false)
  | bytes (octets : List UInt8)
  | list (items : List Value)
  | tuple (items : List Value)
  | dict (entries : List (Value × Value))
  /-- The answer of a comparison that declines to decide. -/
  | notImplemented
  /--
  A value of another kind, known by its written form, by what it shares with its equals, and by
  whether it counts as true.
  -/
  | foreign (kind written identity : String) (holds : Bool)
  deriving Inhabited

namespace Value

def kind : Value → String
  | .null => "NoneType"
  | .bool _ => "bool"
  | .int _ => "int"
  | .float _ => "float"
  | .text _ => "str"
  | .brokenText _ _ => "str"
  | .bytes _ => "bytes"
  | .list _ => "list"
  | .tuple _ => "tuple"
  | .dict _ => "dict"
  | .notImplemented => "NotImplementedType"
  | .foreign kind _ _ _ => kind

def isTrue : Value → Bool
  | .null => false
  | .bool b => b
  | .int n => n != 0
  | .float x => !x.isZero
  | .text s => !s.isEmpty
  | .brokenText _ _ => true
  | .bytes octets => !octets.isEmpty
  | .list items => !items.isEmpty
  | .tuple items => !items.isEmpty
  | .dict entries => !entries.isEmpty
  | .notImplemented => true
  | .foreign _ _ _ holds => holds

mutual

def literal : Value → String
  | .null => "None"
  | .bool true => "True"
  | .bool false => "False"
  | .int n => Text.integer n
  | .float x => x.text
  | .text s => Text.quote s
  | .brokenText points _ => Text.quotePoints points
  | .bytes octets => Text.quoteBytes octets
  | .list items => "[" ++ ", ".intercalate (showAll items) ++ "]"
  | .tuple [item] => "(" ++ item.literal ++ ",)"
  | .tuple items => "(" ++ ", ".intercalate (showAll items) ++ ")"
  | .dict entries => "\x7b" ++ ", ".intercalate (showEntries entries) ++ "\x7d"
  | .notImplemented => "NotImplemented"
  | .foreign _ written _ _ => written

def showAll : List Value → List String
  | [] => []
  | item :: rest => item.literal :: showAll rest

def showEntries : List (Value × Value) → List String
  | [] => []
  | (key, value) :: rest => (key.literal ++ ": " ++ value.literal) :: showEntries rest

end

def asText : Value → Text
  | .text s => s
  | .brokenText points _ => points
  | value => value.literal

def ofText (text : Text) : Value :=
  match read : text.chars? with
  | some chars => .text (String.ofList chars)
  | none => .brokenText text (by rw [Text.isSound, read, Option.isSome_none])

end Value

end TypeLaws
