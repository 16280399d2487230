import TypeLaws.Text.Digits
import TypeLaws.Text.Split
import TypeLaws.Yaml.Timestamp
import TypeLaws.Yaml.Tag

/-!
The kind of a scalar that has no tag, found from its text. The rules are those of the first
version of the format: `yes` and `off` are truth values, a leading zero makes an octal number, and
colons part the places of a number to the base sixty.
-/

namespace TypeLaws.Yaml.Resolution

def truthWords : List String :=
  ["yes", "Yes", "YES", "no", "No", "NO", "true", "True", "TRUE", "false", "False", "FALSE",
    "on", "On", "ON", "off", "Off", "OFF"]

def nullWords : List String := ["", "~", "null", "Null", "NULL"]

def reservedWords : List String := ["!", "&", "*"]

def unsigned : List Char → List Char
  | '+' :: rest => rest
  | '-' :: rest => rest
  | text => text

def isGrouped (isDigit : Char → Bool) (text : List Char) : Bool :=
  !text.isEmpty && text.all fun c => isDigit c || c == '_'

/-- As `isGrouped`, where a digit of a kind stands first. -/
def isGroupedAfter (isFirst : Char → Bool) : List Char → Bool
  | [] => false
  | c :: rest => isFirst c && rest.all fun c => c.isDigit || c == '_'

def isBinaryDigit (c : Char) : Bool := c == '0' || c == '1'

def isOctalDigit (c : Char) : Bool := '0' ≤ c && c ≤ '7'

def isHexDigit (c : Char) : Bool := (Text.hexDigit? c).isSome

def isPositiveDigit (c : Char) : Bool := c.isDigit && c != '0'

def isSixtieth : List Char → Bool
  | [a] => a.isDigit
  | [a, b] => '0' ≤ a && a ≤ '5' && b.isDigit
  | _ => false

def isSexagesimal (isFirst : Char → Bool) (text : List Char) : Bool :=
  match Text.splitAll (· == ':') text with
  | first :: second :: rest =>
      isGroupedAfter isFirst first && (second :: rest).all isSixtieth
  | _ => false

def isInteger (text : List Char) : Bool :=
  let size := unsigned text
  match size with
  | '0' :: 'b' :: digits => isGrouped isBinaryDigit digits
  | '0' :: 'x' :: digits => isGrouped isHexDigit digits
  | ['0'] => true
  | '0' :: digits => isGrouped isOctalDigit digits
  | size => isGroupedAfter isPositiveDigit size || isSexagesimal isPositiveDigit size

/-- The power of ten behind the digits of a number, which may be left out. Its sign may not. -/
def isExponent : List Char → Bool
  | [] => true
  | e :: sign :: digits =>
      (e == 'e' || e == 'E') && (sign == '-' || sign == '+') && !digits.isEmpty &&
        digits.all Char.isDigit
  | _ => false

def isFractionChar (c : Char) : Bool := c.isDigit || c == '_'

def isFraction (text : List Char) : Bool :=
  isExponent (text.dropWhile isFractionChar)

def isFloat (text : List Char) : Bool :=
  let size := unsigned text
  let whole := size.takeWhile (· != '.')
  let behind := (size.dropWhile (· != '.')).drop 1
  let hasPoint := size.contains '.'
  hasPoint &&
    ((isGroupedAfter Char.isDigit whole && isFraction behind) ||
      (isSexagesimal Char.isDigit whole && behind.all isFractionChar) ||
      (whole.isEmpty && ["inf", "Inf", "INF"].contains (String.ofList behind)) ||
      (text.head? == some '.' &&
        ((behind.head?.any Char.isDigit && isFraction behind) ||
          ["nan", "NaN", "NAN"].contains (String.ofList behind))))

/-- A line feed at the end of a text does not change its kind. -/
def withoutLineFeed (text : List Char) : List Char :=
  if text.length > 1 && text.getLast? == some '\n' then text.dropLast else text

def tagOf (text : List Char) : Tag :=
  let text := withoutLineFeed text
  let word := String.ofList text
  if truthWords.contains word then .bool
  else if isFloat text then .float
  else if isInteger text then .int
  else if word == "<<" then .merge
  else if nullWords.contains word then .null
  else if Timestamp.isPlain text then .timestamp
  else if word == "=" then .standIn
  else if reservedWords.contains word then .other
  else .text

end TypeLaws.Yaml.Resolution
