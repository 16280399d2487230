import TypeLaws.Text.Blank
import TypeLaws.Text.DecimalDigit

/-!
Whole numbers as text: plain decimal, hexadecimal of fixed width, and the reading of a number
that a person typed.
-/

namespace TypeLaws.Text

def decimal (n : Nat) : List Char :=
  Nat.toDigits 10 n

def integer (n : Int) : String :=
  if n < 0 then String.ofList ('-' :: decimal n.natAbs) else String.ofList (decimal n.natAbs)

def hexDigit (n : Nat) : Char :=
  Nat.digitChar (n % 16)

def hexadecimal : (width : Nat) → Nat → List Char
  | 0, _ => []
  | width + 1, n => hexadecimal width (n / 16) ++ [hexDigit n]

/-- The value of a row of digits in a base, after the digits that gave `acc`. -/
def positional (base : Nat) : (acc : Nat) → List Nat → Nat
  | acc, [] => acc
  | acc, digit :: rest => positional base (acc * base + digit) rest

def hexDigit? (c : Char) : Option Nat :=
  if '0' ≤ c && c ≤ '9' then some (c.toNat - '0'.toNat)
  else if 'a' ≤ c && c ≤ 'f' then some (c.toNat - 'a'.toNat + 10)
  else if 'A' ≤ c && c ≤ 'F' then some (c.toNat - 'A'.toNat + 10)
  else none

/-- Splits a leading sign off: true for a minus sign. -/
def splitSign : List Char → Bool × List Char
  | '-' :: rest => (true, rest)
  | '+' :: rest => (false, rest)
  | text => (false, text)

/--
The digits of a number in which single low lines may stand between two digits. Fails on any
other character, on no digit at all, and on a low line at an end or beside another.
-/
def groupedDigits? (digit? : Char → Option Nat) : List Char → Option (List Nat)
  | [] => none
  | [c] => (digit? c).map ([·])
  | c :: '_' :: rest => do
      let digit ← digit? c
      let digits ← groupedDigits? digit? rest
      return digit :: digits
  | c :: rest => do
      let digit ← digit? c
      let digits ← groupedDigits? digit? rest
      return digit :: digits

def digitLimit : Nat := 4300

/--
The integer that a text denotes: blanks around it, one sign, decimal digits of any script, low
lines between digits.
-/
def integer? (text : List Char) : Option Int := do
  let (negative, digits) := splitSign (trim isNumberBlank text)
  let digits ← groupedDigits? decimalDigit? digits
  if digitLimit < digits.length then none
  else
    let size := positional 10 0 digits
    return if negative then -Int.ofNat size else Int.ofNat size

end TypeLaws.Text
