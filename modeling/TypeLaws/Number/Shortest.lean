import TypeLaws.Number.Binary64

/-!
The shortest decimal that reads back as a given number. For one digit, two digits and so on, the
two multiples of a power of ten around the number are tried; the first count of digits for which
one of them rounds to the number wins, and of two hits the nearer one. Seventeen digits always
suffice. `text` then writes the digits out: by position from 0.0001 up to sixteen digits before the
point, with an exponent elsewhere, and never without a point or an exponent.
-/

namespace TypeLaws.Binary64

/-- A decimal `0.d₁d₂… * 10 ^ point`. -/
structure Decimal where
  digits : List Nat
  point : Int

/-- The least `k` up to `fuel` for which `r * 10 ^ k` is at least one tenth. -/
def leadingZeros : (fuel : Nat) → Rat → Nat
  | 0, _ => 0
  | fuel + 1, r => if r * 10 < 1 then leadingZeros fuel (r * 10) + 1 else 0

/-- The place of the first digit: `10 ^ (p - 1) ≤ r < 10 ^ p`. -/
def place (r : Rat) : Int :=
  if r < 1 then -(leadingZeros 400 r : Int)
  else (Text.decimal r.floor.toNat).length

/-- The multiple of `unit` that is nearest to `r` among those around it that round to `goal`. -/
def hit? (goal : Binary64) (r unit : Rat) : Option Nat :=
  let below := (r / unit).floor.toNat
  let reads := fun n : Nat => ofMagnitude goal.isNegative (n * unit) == goal
  let down := r - below * unit
  let up := (below + 1) * unit - r
  match reads below, reads (below + 1) with
  | true, true =>
      if down < up || (down == up && below % 2 == 0) then some below else some (below + 1)
  | true, false => some below
  | false, true => some (below + 1)
  | false, false => none

def shortestFrom (goal : Binary64) (r : Rat) : (fuel count : Nat) → Nat × Int
  | 0, count => ((r / 10 ^ (place r - count)).floor.toNat, place r - count)
  | fuel + 1, count =>
      let scale := place r - count
      match hit? goal r (10 ^ scale) with
      | some n => (n, scale)
      | none => shortestFrom goal r fuel (count + 1)

def shortest (goal : Binary64) (r : Rat) : Decimal :=
  let (n, scale) := shortestFrom goal r 17 1
  let digits := (Text.decimal n).map fun d => d.toNat - '0'.toNat
  let bare := (digits.reverse.dropWhile (· == 0)).reverse
  ⟨bare, digits.length + scale⟩

/-- Decimals whose point stands from here up to `positionalUpTo` are written by position. -/
def positionalFrom : Int := -3

def positionalUpTo : Int := 16

def Decimal.text (d : Decimal) : List Char :=
  let digits := d.digits.map Nat.digitChar
  if positionalFrom ≤ d.point && d.point ≤ positionalUpTo then
    if d.point ≤ 0 then '0' :: '.' :: (List.replicate d.point.natAbs '0' ++ digits)
    else
      let size := d.point.toNat
      let whole := digits.take size ++ List.replicate (size - digits.length) '0'
      whole ++ '.' :: (if digits.length ≤ size then ['0'] else digits.drop size)
  else
    let exponent := d.point - 1
    let size := Text.decimal exponent.natAbs
    let lead := match digits with
      | first :: (second :: rest) => first :: '.' :: second :: rest
      | digits => digits
    lead ++ 'e' :: (if exponent < 0 then '-' else '+') ::
      (if size.length < 2 then '0' :: size else size)

/-- The text of a number: the shortest decimal that reads back as it. -/
def text (x : Binary64) : String :=
  let body := match x with
    | .nan => "nan".toList
    | .infinite _ => "inf".toList
    | .finite _ 0 _ => "0.0".toList
    | .finite _ significand exponent => (shortest x ((significand : Rat) * 2 ^ exponent)).text
  String.ofList (if x.isNegative then '-' :: body else body)

end TypeLaws.Binary64
