import TypeLaws.Text.Digits

/-!
Floating-point numbers of 53 significant bits, in exact arithmetic. A finite number is a sign, a
significand and a power of two; `ofMagnitude` rounds a rational to the nearest of them, a tie
going to the even significand, and every other operation rounds its exact result through it.
-/

namespace TypeLaws

/-- `finite negative significand exponent` is plus or minus `significand * 2 ^ exponent`. -/
inductive Binary64 where
  | nan
  | infinite (negative : Bool)
  | finite (negative : Bool) (significand : Nat) (exponent : Int)
  deriving DecidableEq

namespace Binary64

def leastExponent : Int := -1074

def greatestExponent : Int := 971

def zero (negative : Bool) : Binary64 :=
  .finite negative 0 leastExponent

def value? : Binary64 → Option Rat
  | .finite negative significand exponent =>
      let size := (significand : Rat) * 2 ^ exponent
      some (if negative then -size else size)
  | _ => none

def isZero : Binary64 → Bool
  | .finite _ significand _ => significand == 0
  | _ => false

def isNegative : Binary64 → Bool
  | .nan => false
  | .infinite negative => negative
  | .finite negative _ _ => negative

/-- The integer nearest to a rational; of two equally near ones the even one. -/
def roundHalfEven (r : Rat) : Int :=
  let below := r.floor
  let rest := r - below
  if rest < 1 / 2 then below
  else if 1 / 2 < rest then below + 1
  else if below % 2 = 0 then below
  else below + 1

def binade (r : Rat) : Int :=
  let guess : Int := (Nat.log2 r.num.natAbs : Int) - (Nat.log2 r.den : Int)
  if r < 2 ^ guess then guess - 1 else guess

def ofMagnitude (negative : Bool) (r : Rat) : Binary64 :=
  if r ≤ 0 then zero negative
  else
    let exponent := max (binade r - 52) leastExponent
    let significand := (roundHalfEven (r / 2 ^ exponent)).toNat
    let (significand, exponent) :=
      if 1 <<< 53 ≤ significand then (1 <<< 52, exponent + 1) else (significand, exponent)
    if greatestExponent < exponent then .infinite negative
    else .finite negative significand exponent

def ofRat (r : Rat) : Binary64 :=
  ofMagnitude (r < 0) (if r < 0 then -r else r)

/-- Equality of numbers: nothing equals a number that is not one, and the two zeros are equal. -/
def same (a b : Binary64) : Bool :=
  match a, b with
  | .nan, _ => false
  | _, .nan => false
  | .infinite p, .infinite q => p == q
  | a, b => a.value?.isSome && a.value? == b.value?

def isInteger (x : Binary64) (n : Int) : Bool :=
  x.value? == some (n : Rat)

def negate : Binary64 → Binary64
  | .nan => .nan
  | .infinite negative => .infinite (!negative)
  | .finite negative significand exponent => .finite (!negative) significand exponent

/-- The rounded sum of two finite numbers; with any other number, that number, except that two
infinities of different signs have no sum. -/
def add (a b : Binary64) : Binary64 :=
  match a, b with
  | .infinite m, .infinite n => if m = n then a else .nan
  | a, b =>
      match a.value?, b.value? with
      | some p, some q => ofRat (p + q)
      | some _, none => b
      | none, some _ => a
      | none, none => .nan

def mul (a b : Binary64) : Binary64 :=
  match a.value?, b.value? with
  | some p, some q =>
      ofMagnitude (a.isNegative != b.isNegative) (if p * q < 0 then -(p * q) else p * q)
  | some _, none => b
  | none, _ => a

def ofDecimal (negative : Bool) (digits : List Nat) (scale : Int) : Binary64 :=
  let digits := digits.dropWhile (· == 0)
  let place := (digits.length : Int) + scale
  if digits.isEmpty || place < -330 then zero negative
  else if 310 < place then .infinite negative
  else ofMagnitude negative ((Text.positional 10 0 digits : Rat) * 10 ^ scale)

/-- Takes out single low lines between digits; fails on any other low line. -/
def ungroup : (afterDigit : Bool) → List Char → Option (List Char)
  | _, [] => some []
  | afterDigit, '_' :: c :: rest =>
      if afterDigit && c.isDigit then (ungroup true rest).map (c :: ·) else none
  | _, c :: rest => if c == '_' then none else (ungroup c.isDigit rest).map (c :: ·)

def exponent? : List Char → Option Int
  | [] => some 0
  | c :: rest =>
      let (negative, digits) := Text.splitSign rest
      if (c == 'e' || c == 'E') && !digits.isEmpty && digits.all Char.isDigit then
        let size := Text.positional 10 0 (digits.map fun d => d.toNat - '0'.toNat)
        some (if negative then -Int.ofNat size else Int.ofNat size)
      else none

def ofText? (text : List Char) : Option Binary64 := do
  let plain := (Text.trim Text.isNumberBlank text).map fun c =>
    ((Text.decimalDigit? c).map Nat.digitChar).getD c
  let (negative, body) := Text.splitSign plain
  let word := String.ofList (body.map Char.toLower)
  if word == "inf" || word == "infinity" then return .infinite negative
  if word == "nan" then return .nan
  let body ← ungroup false body
  let whole := body.takeWhile Char.isDigit
  let rest := body.drop whole.length
  let (part, rest) := match rest with
    | '.' :: rest => (rest.takeWhile Char.isDigit, rest.dropWhile Char.isDigit)
    | rest => ([], rest)
  if whole.isEmpty && part.isEmpty then none
  let exponent ← exponent? rest
  let digits := (whole ++ part).map fun d => d.toNat - '0'.toNat
  return ofDecimal negative digits (exponent - part.length)

end Binary64

end TypeLaws
