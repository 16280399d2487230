/-!
Bytes written in base 64: four characters for three bytes. Characters outside of the alphabet are
passed over, and the padding at the end must make the last group whole.
-/

namespace TypeLaws.Text.Base64

def sextet? (c : Char) : Option Nat :=
  if 'A' ≤ c && c ≤ 'Z' then some (c.toNat - 'A'.toNat)
  else if 'a' ≤ c && c ≤ 'z' then some (c.toNat - 'a'.toNat + 26)
  else if '0' ≤ c && c ≤ '9' then some (c.toNat - '0'.toNat + 52)
  else if c == '+' then some 62
  else if c == '/' then some 63
  else none

/--
Reads characters behind `count` ones of a group, whose bits that make no byte yet are `carry`, and
behind `pads` signs of padding in a row. Reading stops at a group that the padding makes whole.
-/
def readFrom (count carry pads : Nat) : List Char → Option (List UInt8)
  | [] => if count = 0 then some [] else none
  | '=' :: rest =>
      if 2 ≤ count then
        if 4 ≤ count + pads + 1 then some [] else readFrom count carry (pads + 1) rest
      else readFrom count carry pads rest
  | c :: rest =>
      match sextet? c with
      | none => readFrom count carry pads rest
      | some sextet =>
          match count with
          | 0 => readFrom 1 sextet 0 rest
          | 1 => (readFrom 2 (sextet % 16) 0 rest).map (UInt8.ofNat (carry * 4 + sextet / 16) :: ·)
          | 2 => (readFrom 3 (sextet % 4) 0 rest).map (UInt8.ofNat (carry * 16 + sextet / 4) :: ·)
          | _ => (readFrom 0 0 0 rest).map (UInt8.ofNat (carry * 64 + sextet) :: ·)

def decode? (text : List Char) : Option (List UInt8) :=
  readFrom 0 0 0 text

end TypeLaws.Text.Base64
