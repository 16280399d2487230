import TypeLaws.Text.Digits
import TypeLaws.Yaml.Fault

/-!
Dates and moments: a year, a month and a day, and possibly a time of the day, which may have a
fraction of a second and a distance from the prime meridian.
-/

namespace TypeLaws.Yaml

/-- The distance from the prime meridian, in seconds. -/
inductive Zone where
  | unknown
  | prime
  | offset (seconds : Int)
  deriving DecidableEq

structure TimeOfDay where
  hour : Nat
  minute : Nat
  second : Nat
  microsecond : Nat
  zone : Zone
  deriving DecidableEq

structure Timestamp where
  year : Nat
  month : Nat
  day : Nat
  time : Option TimeOfDay
  deriving DecidableEq

namespace Timestamp

def digits? (least most : Nat) (text : List Char) : Option (Nat × List Char) :=
  let digits := (text.take most).takeWhile Char.isDigit
  if digits.length < least then none
  else
    some (Text.positional 10 0 (digits.map fun d => d.toNat - '0'.toNat), text.drop digits.length)

def sign? (c : Char) : List Char → Option (List Char)
  | [] => none
  | d :: rest => if c == d then some rest else none

def isGap (c : Char) : Bool := c == ' ' || c == '\t'

def separator? : List Char → Option (List Char)
  | 'T' :: rest => some rest
  | 't' :: rest => some rest
  | c :: rest => if isGap c then some (rest.dropWhile isGap) else none
  | [] => none

/-- The millionths that the digits behind the point of a second make; further digits are cut. -/
def millionths (digits : List Char) : Nat :=
  let six := (digits ++ List.replicate 6 '0').take 6
  Text.positional 10 0 (six.map fun d => d.toNat - '0'.toNat)

def fraction (text : List Char) : Nat × List Char :=
  match text with
  | '.' :: rest => (millionths (rest.takeWhile Char.isDigit), rest.dropWhile Char.isDigit)
  | text => (0, text)

def offsetMinutes? : List Char → Option Nat
  | [] => some 0
  | ':' :: rest =>
      match digits? 2 2 rest with
      | some (minutes, []) => some minutes
      | _ => none
  | _ => none

def offset? (text : List Char) : Option Nat := do
  let (hours, rest) ← digits? 1 2 text
  let minutes ← offsetMinutes? rest
  return hours * 3600 + minutes * 60

def zone? (text : List Char) : Option Zone :=
  match text with
  | [] => some .unknown
  | text =>
      match text.dropWhile isGap with
      | ['Z'] => some .prime
      | '+' :: rest => (offset? rest).map fun seconds => .offset seconds
      | '-' :: rest => (offset? rest).map fun seconds => .offset (-seconds)
      | _ => none

def time? (text : List Char) : Option TimeOfDay := do
  let (hour, rest) ← digits? 1 2 text
  let rest ← sign? ':' rest
  let (minute, rest) ← digits? 2 2 rest
  let rest ← sign? ':' rest
  let (second, rest) ← digits? 2 2 rest
  let (microsecond, rest) := fraction rest
  let zone ← zone? rest
  return ⟨hour, minute, second, microsecond, zone⟩

def read? (text : List Char) : Option Timestamp := do
  let (year, rest) ← digits? 4 4 text
  let rest ← sign? '-' rest
  let (month, rest) ← digits? 1 2 rest
  let rest ← sign? '-' rest
  let (day, rest) ← digits? 1 2 rest
  if rest.isEmpty then return ⟨year, month, day, none⟩
  else
    let rest ← separator? rest
    let time ← time? rest
    return ⟨year, month, day, some time⟩

/-- A text that needs no tag to be a date or a moment: a date alone has all its digits. -/
def isPlain (text : List Char) : Bool :=
  match read? text with
  | none => false
  | some moment => moment.time.isSome || text.length == 10

def isLeapYear (year : Nat) : Bool :=
  year % 4 == 0 && (year % 100 != 0 || year % 400 == 0)

def daysIn (year month : Nat) : Nat :=
  if month == 2 then if isLeapYear year then 29 else 28
  else if [4, 6, 9, 11].contains month then 30
  else 31

def secondsPerDay : Nat := 86400

/-- How a span of time is written: in days, not below zero but for the days, and seconds. -/
def writtenSpan (seconds : Int) : String :=
  let days := seconds.fdiv secondsPerDay
  let rest := seconds.fmod secondsPerDay
  let parts := (if days != 0 then ["days=" ++ Text.integer days] else []) ++
    (if rest != 0 then ["seconds=" ++ Text.integer rest] else [])
  "datetime.timedelta(" ++ (if parts.isEmpty then "0" else ", ".intercalate parts) ++ ")"

/-- What is wrong with a moment, if anything is. The distance is looked at first. -/
def check (moment : Timestamp) : Except ValueFault Unit := do
  if let some ⟨_, _, _, _, .offset seconds⟩ := moment.time then
    if secondsPerDay ≤ seconds.natAbs then throw (.offsetOutOfRange (writtenSpan seconds))
  if moment.year = 0 then throw (.yearOutOfRange moment.year)
  if moment.month = 0 || 12 < moment.month then throw .monthOutOfRange
  if moment.day = 0 || daysIn moment.year moment.month < moment.day then throw .dayOutOfRange
  if let some time := moment.time then
    if 23 < time.hour then throw .hourOutOfRange
    if 59 < time.minute then throw .minuteOutOfRange
    if 59 < time.second then throw .secondOutOfRange

def kind (moment : Timestamp) : String :=
  if moment.time.isSome then "datetime.datetime" else "datetime.date"

def zoneParts : Zone → List String
  | .unknown => []
  | .prime => ["tzinfo=datetime.timezone.utc"]
  | .offset seconds =>
      if seconds = 0 then ["tzinfo=datetime.timezone.utc"]
      else ["tzinfo=datetime.timezone(" ++ writtenSpan seconds ++ ")"]

/-- The parts of a time; zeros at its end are left out behind the minute. -/
def timeParts (time : TimeOfDay) : List String :=
  let numbers :=
    if time.microsecond != 0 then [time.hour, time.minute, time.second, time.microsecond]
    else if time.second != 0 then [time.hour, time.minute, time.second]
    else [time.hour, time.minute]
  numbers.map (fun n : Nat => Text.integer n) ++ zoneParts time.zone

def written (moment : Timestamp) : String :=
  let date := [moment.year, moment.month, moment.day].map fun n : Nat => Text.integer n
  let time := (moment.time.map timeParts).getD []
  moment.kind ++ "(" ++ ", ".intercalate (date ++ time) ++ ")"

/-- The days from the day before the first one of the calendar. -/
def dayNumber (moment : Timestamp) : Nat :=
  let years := moment.year - 1
  let before := 365 * years + years / 4 - years / 100 + years / 400
  (List.range (moment.month - 1)).foldl (fun days month => days + daysIn moment.year (month + 1))
    before + moment.day

def distance? : Zone → Option Int
  | .unknown => none
  | .prime => some 0
  | .offset seconds => some seconds

/-- The millionths of a second up to a time of a day, as a clock at a distance shows it. -/
def instant (moment : Timestamp) (time : TimeOfDay) (distance : Int) : Int :=
  let seconds : Nat :=
    moment.dayNumber * secondsPerDay + time.hour * 3600 + time.minute * 60 + time.second
  ((seconds : Int) - distance) * 1000000 + time.microsecond

/--
What a moment shares with its equals. Moments whose distances from the prime meridian are known are
equal if they are the same instant; all others are equal if they are written in the same way.
-/
def identity (moment : Timestamp) : String :=
  match moment.time with
  | none => moment.written
  | some time =>
      match distance? time.zone with
      | some distance => Text.integer (moment.instant time distance)
      | none => moment.written

end Timestamp

end TypeLaws.Yaml
