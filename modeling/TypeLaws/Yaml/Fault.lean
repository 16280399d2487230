import TypeLaws.Text.Quoted

/-!
Why a document has no value: what is wrong with its characters, its words, the order of its words,
its names or its values, and for a few values a text that says what they should have been.
-/

namespace TypeLaws.Yaml

inductive ValueFault where
  | codeOutOfRange
  /-- An escape has a code of more than 31 bits. -/
  | codeTooLarge
  | empty
  | notInteger (base : Nat) (text : Text)
  | tooManyDigits (count : Nat)
  | notNumber (text : Text)
  /-- A number to the base sixty has more places than floating-point numbers reach. -/
  | tooManyPlaces
  | notTruth (word : Text)
  | notMoment
  | momentNotText
  | yearOutOfRange (year : Nat)
  | monthOutOfRange
  | dayOutOfRange
  | hourOutOfRange
  | minuteOutOfRange
  | secondOutOfRange
  | offsetOutOfRange (written : String)
  deriving DecidableEq

namespace ValueFault

def message : ValueFault → String
  | .codeOutOfRange => "chr() arg not in range(0x110000)"
  | .codeTooLarge => "Python int too large to convert to C int"
  | .empty => "string index out of range"
  | .notInteger base text =>
      "invalid literal for int() with base " ++ Text.integer base ++ ": " ++
        String.ofList ((Text.quotePoints text).toList.take 200)
  | .tooManyDigits count =>
      "Exceeds the limit (4300 digits) for integer string conversion: value has " ++
        Text.integer count ++ " digits; use sys.set_int_max_str_digits() to increase the limit"
  | .notNumber text => "could not convert string to float: " ++ Text.quotePoints text
  | .tooManyPlaces => "int too large to convert to float"
  | .notTruth word => Text.quotePoints word
  | .notMoment => "'NoneType' object has no attribute 'groupdict'"
  | .momentNotText => "expected string or bytes-like object, got 'list'"
  | .yearOutOfRange year => "year " ++ Text.integer year ++ " is out of range"
  | .monthOutOfRange => "month must be in 1..12"
  | .dayOutOfRange => "day is out of range for month"
  | .hourOutOfRange => "hour must be in 0..23"
  | .minuteOutOfRange => "minute must be in 0..59"
  | .secondOutOfRange => "second must be in 0..59"
  | .offsetOutOfRange written =>
      "offset must be a timedelta strictly between -timedelta(hours=24) and " ++
        "timedelta(hours=24), not " ++ written ++ "."

end ValueFault

inductive Fault where
  | character
  | word
  | unfinished
  | order
  /-- A reference to nothing, a name given twice, or a second document. -/
  | reference
  /-- A value that its tag does not allow, or a tag that is not known. -/
  | value
  | unreadable (fault : ValueFault)
  deriving DecidableEq

/-- A row of items that were read before the end or a fault. -/
structure Row (α : Type) where
  items : List α
  fault : Option Fault

def Row.cons {α : Type} (item : α) (row : Row α) : Row α :=
  { row with items := item :: row.items }

end TypeLaws.Yaml
