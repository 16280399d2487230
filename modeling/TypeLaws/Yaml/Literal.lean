import TypeLaws.Number.Shortest
import TypeLaws.Text.Base64
import TypeLaws.Text.Lowercase
import TypeLaws.Value.Basic
import TypeLaws.Yaml.Resolution
import TypeLaws.Yaml.Scalar.Basic

/-!
The values of scalars by their kinds. A text that has the right kind by itself nearly always has
a value; one that was given its kind by a tag may fail in many ways.
-/

namespace TypeLaws.Yaml.Literal

def withoutLowLines (text : Text) : Text :=
  text.filter (· != .char '_')

def places (text : Text) : List Text :=
  Text.splitAll (· == .char ':') text

def signed? (text : Text) : Except ValueFault (Bool × Text) :=
  match text.toChars with
  | [] => .error .empty
  | '-' :: _ => .ok (true, text.drop 1)
  | '+' :: _ => .ok (false, text.drop 1)
  | _ => .ok (false, text)

/-- The value of a digit: a decimal digit of any script or, in base sixteen, a letter. -/
def digit? (base : Nat) (c : Char) : Option Nat :=
  match (Text.decimalDigit? c).or (Text.hexDigit? c) with
  | some digit => if digit < base then some digit else none
  | none => none

def baseLetter (base : Nat) : Char :=
  if base = 2 then 'b' else if base = 8 then 'o' else 'x'

def dropAnnouncement (base : Nat) (text : List Char) : List Char :=
  match text with
  | '0' :: letter :: rest =>
      if base != 10 && letter.toLower == baseLetter base then rest else text
  | text => text

def digitCount (base : Nat) (text : List Char) : Nat :=
  (text.takeWhile fun c => (digit? base c).isSome).length

/--
The integer that a text denotes in a base; it may have blanks around it and a sign. Decimal digits
are counted before anything else is looked at.
-/
def integerIn (base : Nat) (text : Text) : Except ValueFault Int :=
  let (negative, size) := Text.splitSign (Text.trim Text.isNumberBlank text.toChars)
  let digits := dropAnnouncement base size
  let count := digitCount base digits
  if base = 10 && Text.digitLimit < count then .error (.tooManyDigits count)
  else
    match digits.mapM (digit? base) with
    | none => .error (.notInteger base text)
    | some [] => .error (.notInteger base text)
    | some digits =>
        let size := Int.ofNat (Text.positional base 0 digits)
        .ok (if negative then -size else size)

def sixties (places : List Int) : Int :=
  places.foldl (fun size place => 60 * size + place) 0

def integer (text : Text) : Except ValueFault Int := do
  let (negative, size) ← signed? (withoutLowLines text)
  let value ←
    match size.toChars with
    | ['0'] => pure 0
    | '0' :: 'b' :: _ => integerIn 2 (size.drop 2)
    | '0' :: 'x' :: _ => integerIn 16 (size.drop 2)
    | '0' :: _ => integerIn 8 size
    | [] => throw .empty
    | chars =>
        if chars.contains ':' then sixties <$> (places size).mapM (integerIn 10)
        else integerIn 10 size
  return if negative then -value else value

def number? (text : Text) : Except ValueFault Binary64 :=
  match Binary64.ofText? text.toChars with
  | some x => .ok x
  | none => .error (.notNumber text)

/-- Adds places to the base sixty to a sum, the least place first, rounding at every step. -/
def addSixties (sum : Binary64) (weight : Rat) : List Binary64 → Except ValueFault Binary64
  | [] => .ok sum
  | place :: rest =>
      match Binary64.ofRat weight with
      | .infinite _ => .error .tooManyPlaces
      | factor => addSixties (sum.add (place.mul factor)) (weight * 60) rest

def floatForm (text : Text) : Except ValueFault (Bool × Text) :=
  signed? (Text.lower (withoutLowLines text))

def isNaNWord (text : Text) : Bool :=
  match floatForm text with
  | .ok (_, size) => size.toChars == ".nan".toList
  | .error _ => false

def float (text : Text) : Except ValueFault Binary64 := do
  if isNaNWord text then return .nan
  let (negative, size) ← floatForm text
  let value ←
    if size.toChars == ".inf".toList then pure (.infinite false)
    else if size.toChars.contains ':' then do
      let numbers ← (places size).mapM number?
      addSixties (.zero false) 1 numbers.reverse
    else number? size
  return if negative then value.negate else value

def truth (text : Text) : Except ValueFault Bool :=
  let lowered := Text.lower text
  let word := lowered.repaired
  if ["yes", "true", "on"].contains word then .ok true
  else if ["no", "false", "off"].contains word then .ok false
  else .error (.notTruth lowered)

def moment (text : List Char) : Except ValueFault Value := do
  match Timestamp.read? (Resolution.withoutLineFeed text) with
  | none => throw .notMoment
  | some moment =>
      moment.check
      return .foreign moment.kind moment.written moment.identity true

def binary (text : List Char) : Except Fault Value :=
  if text.all fun c => c.toNat < 128 then
    match Text.Base64.decode? text with
    | some octets => .ok (.bytes octets)
    | none => .error .value
  else .error .value

def orUnreadable {α : Type} (value : Except ValueFault α) : Except Fault α :=
  value.mapError .unreadable

/-- The value of a scalar of a kind; nothing for the kinds that scalars cannot have. -/
def valueOf? (tag : Tag) (scalar : Scalar) : Option (Except Fault Value) :=
  match tag with
  | .null => some (.ok .null)
  | .bool => some (orUnreadable (.bool <$> truth scalar.points))
  | .int => some (orUnreadable (.int <$> integer scalar.points))
  | .float => some (orUnreadable (.float <$> float scalar.points))
  | .binary => some (binary scalar.chars)
  | .timestamp => some (orUnreadable (moment scalar.chars))
  | .text => some (.ok (.ofText scalar.points))
  | _ => none

end TypeLaws.Yaml.Literal
