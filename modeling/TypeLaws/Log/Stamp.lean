import TypeLaws.Text.DecimalDigit
import TypeLaws.Text.Split

/-!
Time stamps. When a message is logged is not known here, so a mark stands in the place of every
stamp that begins a line, whether it was written for a record or is a part of a message.
-/

namespace TypeLaws.Log

def stampMark : String := "[T] "

/-- The form of a stamp. The letter `d` stands for any decimal digit. -/
def stampForm : String := "[dddd-dd-ddTdd:dd:dd] "

def afterStamp? : (form line : List Char) → Option (List Char)
  | [], rest => some rest
  | _ :: _, [] => none
  | f :: form, c :: rest =>
      if (if f == 'd' then (Text.decimalDigit? c).isSome else f == c) then afterStamp? form rest
      else none

def maskLine (line : List Char) : List Char :=
  match afterStamp? stampForm.toList line with
  | some rest => stampMark.toList ++ rest
  | none => line

def maskStamps (text : String) : String :=
  String.ofList (['\n'].intercalate ((Text.splitAll (· == '\n') text.toList).map maskLine))

end TypeLaws.Log
