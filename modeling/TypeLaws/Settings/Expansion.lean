import TypeLaws.Settings.Environment
import TypeLaws.Settings.Template
import TypeLaws.Text.Quoted

/-!
Expansion: a template is filled in with the texts of an environment. A modifier that assigns
changes the environment, and what it assigned stays assigned even if a later piece fails.

This is how the package `expandvars` is assumed to work where unset variables are not let through:
its modifiers, its order of evaluation, and its errors with their texts. An assignment fails as one
to the environment of the process does.
-/

namespace TypeLaws.Settings

/-- The name whose text, if there is one, stands for every text that is missing. -/
def fallbackName : Text := "EXPANDVARS_RECOVER_NULL"

namespace Expansion

inductive Fault where
  | malformed (defect : Defect)
  | unbound (name : Text)
  /-- A variable that must have a text has none, or the empty one. -/
  | missing (name reason : Text)
  | unboundIndirection (name : Text)
  | notLength (name token : Text)
  | negativeLength (name token : Text)
  | unencodable (text : Text)
  | nullCharacter
  deriving DecidableEq

namespace Fault

def defaultReason : Text := "parameter null or not set"

def message (whole : Text) : Fault → Text
  | .malformed .danglingEscape => whole ++ ": missing escaped character"
  | .malformed .unclosedBrace => whole ++ ": missing '\x7d'"
  | .malformed .badReference => whole ++ ": bad substitution"
  | .unbound name => Text.quotePoints (name ++ ": unbound variable")
  | .missing name reason => Text.quotePoints (name ++ ": " ++ reason)
  | .unboundIndirection name => Text.quotePoints (name ++ ": invalid indirect expansion")
  | .notLength name token =>
      name ++ (": operand expected (error token is " ++ Text.quotePoints token ++ ")" : String)
  | .negativeLength name token =>
      name ++ ": " ++ token ++ ": substring expression < 0"
  | .unencodable text => Text.encodingComplaint text
  | .nullCharacter => "embedded null byte"

end Fault

end Expansion

abbrev Expand := ExceptT Expansion.Fault (StateM Environment)

namespace Expansion

def find (indirect : Bool) (name : Text) : Expand (Option Text) := do
  let env ← get
  match indirect, env.get? name with
  | false, found => return found
  | true, some target => return env.get? target
  | true, none => throw (.unboundIndirection name)

def findOrEmpty (indirect : Bool) (name : Text) : Expand Text := do
  return (← find indirect name).getD []

def recover (fault : Fault) : Expand Text := do
  match (← get).get? fallbackName with
  | some text => return text
  | none => throw fault

/-- A reference without a modifier. Only a strict expansion minds a missing text. -/
def lookup (strict indirect : Bool) (name : Text) : Expand Text := do
  match ← find indirect name with
  | some text => return text
  | none => if strict then recover (.unbound name) else return []

def assign (name text : Text) : Expand Unit := do
  if !text.isEncodable then throw (.unencodable text)
  if text.contains (.char '\x00') then throw .nullCharacter
  modify fun env => env.assign name text

/-- The place in a row of `length` items that an offset denotes, counted from the end if the offset
is negative. -/
def place (length : Nat) (offset : Int) : Nat :=
  if offset < 0 then (offset + length).toNat else min offset.toNat length

def part (text : Text) (start stop : Int) : Text :=
  (text.take (place text.length stop)).drop (place text.length start)

def integer? (token : Text) : Option Int := do
  Text.integer? (← token.chars?)

def offsetOf (token : Text) : Int :=
  (integer? token).getD 0

/-- The length of a part. A word in its place counts as no length at all. -/
def lengthOf (name token : Text) : Expand (Option Int) := do
  let token := Text.trimBlank token
  match integer? token with
  | some length =>
      if length < 0 then throw (.negativeLength name token) else return some length
  | none => if token.all Template.isWord then return none else throw (.notLength name token)

def partOf (name text operand : Text) : Expand Text := do
  let start := offsetOf (operand.takeWhile (· != .char ':'))
  match operand.dropWhile (· != .char ':') with
  | [] => return part text start text.length
  | _ :: token =>
      if token.contains (.char ':') then throw (.malformed .badReference)
      match ← lengthOf name token with
      | some length => return part text start (start + length)
      | none => return []

def applyModifier (modifier : Modifier) (name text operand : Text) : Expand Text := do
  match modifier with
  | .default => return if text.isEmpty then operand else text
  | .assign =>
      if text.isEmpty then
        assign name operand
        return operand
      else return text
  | .alternative => return if text.isEmpty then [] else operand
  | .require =>
      if text.isEmpty then
        recover (.missing name (if operand.isEmpty then Fault.defaultReason else operand))
      else return text
  | .part =>
      if operand.isEmpty then throw (.malformed .badReference)
      else partOf name text operand

mutual

/-- Fills in one piece. Inside of modifiers nothing is missed. -/
def fillPiece (strict : Bool) : Piece → Expand Text
  | .literal point => return [point]
  | .named indirect name => lookup strict indirect name
  | .modified indirect name modifier operand => do
      let text ← findOrEmpty indirect name
      let operand ← fill false operand
      applyModifier modifier name text operand
  | .size name => do
      let text ← findOrEmpty false name
      return .ofChars (Text.decimal text.length)
  | .guardedSize name operand => do
      let text ← findOrEmpty false name
      let operand ← fill false operand
      if operand.isEmpty then return .ofChars (Text.decimal text.length)
      else throw (.malformed .badReference)
  | .defect defect => throw (.malformed defect)

def fill (strict : Bool) : Template → Expand Text
  | [] => return []
  | piece :: rest => do
      let front ← fillPiece strict piece
      let back ← fill strict rest
      return front ++ back

end

end Expansion

def expand (text : Text) (env : Environment) : Except Expansion.Fault Text × Environment :=
  (Expansion.fill true (Template.read text)).run.run env

end TypeLaws.Settings
