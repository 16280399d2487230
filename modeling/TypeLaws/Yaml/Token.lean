import TypeLaws.Yaml.Scalar.Basic
import TypeLaws.Yaml.Tag

/-!
The words of a document. Some are not written but stand for the indentation of lines: the starts
and ends of blocks.
-/

namespace TypeLaws.Yaml

inductive Directive where
  | version (major : Nat)
  | tag (handle address : String)
  | other
  deriving DecidableEq

inductive Token where
  | directive (directive : Directive)
  | documentStart
  | documentEnd
  | streamEnd
  | blockSequenceStart
  | blockMappingStart
  | blockEnd
  | flowSequenceStart
  | flowSequenceEnd
  | flowMappingStart
  | flowMappingEnd
  | blockEntry
  | flowEntry
  | key
  | value
  | alias (name : String)
  | anchor (name : String)
  | tag (word : Tag.Word)
  | scalar (plain : Bool) (scalar : Scalar)

namespace Token

def endsName (next : Option Char) : Bool :=
  endsWord next || next.any fun c => "?:,]\x7d%@`".toList.contains c

def readName (cursor : Cursor) : Except Fault (String × Cursor) :=
  let (name, after) := cursor.advance.span isNameChar
  if name.isEmpty || !endsName after.peek then .error after.refusal
  else .ok (String.ofList name, after)

def readNumber (cursor : Cursor) : Except Fault (Nat × Cursor) :=
  let (digits, after) := cursor.span Char.isDigit
  if digits.isEmpty then .error after.refusal
  else .ok (Text.positional 10 0 (digits.map fun d => d.toNat - '0'.toNat), after)

def readVersion (cursor : Cursor) : Except Fault (Directive × Cursor) := do
  let (major, after) ← readNumber cursor.skipSpaces
  if after.peek != some '.' then throw after.refusal
  let (_, after) ← readNumber after.advance
  if endsItem after.peek then return (.version major, after) else throw .word

def readHandleDirective (cursor : Cursor) : Except Fault (Directive × Cursor) := do
  let (handle, after) ← Tag.readHandle cursor.skipSpaces
  if after.peek != some ' ' then throw after.refusal
  let (address, after) ← Tag.readAddress after.skipSpaces
  if endsItem after.peek then return (.tag handle address, after) else throw .word

def readDirective (cursor : Cursor) : Except Fault (Directive × Cursor) := do
  let (name, after) := cursor.advance.span isNameChar
  if name.isEmpty || !endsItem after.peek then throw after.refusal
  let (found, after) ←
    match String.ofList name with
    | "YAML" => readVersion after
    | "TAG" => readHandleDirective after
    | _ => pure (.other, after.skipLine)
  let after := after.skipSpaces.skipComment
  match after.lineBreak? with
  | some (_, final) => return (found, final)
  | none => if after.rest.isEmpty then return (found, after) else throw .word

end Token

end TypeLaws.Yaml
