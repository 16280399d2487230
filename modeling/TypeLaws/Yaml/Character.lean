/-!
Characters of a document: which it may hold, which end a line, and which may stand in names.
-/

namespace TypeLaws.Yaml

/-- The character that marks the order of bytes. It takes no column. -/
def byteOrderMark : Char := '\ufeff'

def isAllowed (c : Char) : Bool :=
  let n := c.toNat
  n == 0x9 || n == 0xA || n == 0xD || (0x20 ≤ n && n ≤ 0x7E) || n == 0x85 ||
    (0xA0 ≤ n && n ≤ 0xFFFD) || 0x10000 ≤ n

def isBreak (c : Char) : Bool :=
  c == '\n' || c == '\u0085' || c == '\u2028' || c == '\u2029'

/-- What the end of a line leaves in a text: one of the old line ends is a line feed. -/
def breakText (c : Char) : Char :=
  if c == '\u0085' then '\n' else c

def isSpace (c : Char) : Bool := c == ' '

def isGap (c : Char) : Bool := c == ' ' || c == '\t'

def endsWord : Option Char → Bool
  | none => true
  | some c => isGap c || isBreak c

def endsItem : Option Char → Bool
  | none => true
  | some c => isSpace c || isBreak c

def isNameChar (c : Char) : Bool :=
  c.isAlphanum || c == '-' || c == '_'

def isAddressChar (c : Char) : Bool :=
  c.isAlphanum || "-;/?:@&=+$,_.!~*'()[]%".toList.contains c

def atSeparator : List Char → Bool
  | '-' :: '-' :: '-' :: rest => endsWord rest.head?
  | '.' :: '.' :: '.' :: rest => endsWord rest.head?
  | _ => false

end TypeLaws.Yaml
