import PredicateIndex.Text.Digit

/-!
# Points in time

A configuration document can hold a day, or a day with a time of the day, which may name its distance
from universal time. The spelling fixes how many digits each part has; that the parts are a day of the
calendar and a time of the day is checked afterwards, distance first, and the first part that is out
of range is the fault.
-/
namespace PredicateIndex

open Text (isAsciiDigit asciiNat)

/-- A time of the day. -/
structure Clock where
  /-- The hour. -/
  hour : Nat
  /-- The minute. -/
  minute : Nat
  /-- The second. -/
  second : Nat
  /-- The millionth parts of the second. -/
  micros : Nat := 0
  /-- How many minutes it is ahead of universal time, if that is known. -/
  offset : Option Int := none
  deriving DecidableEq, Repr

/-- A day, with or without a time. -/
structure Timestamp where
  /-- The year. -/
  year : Nat
  /-- The month. -/
  month : Nat
  /-- The day of the month. -/
  day : Nat
  /-- The time of the day. -/
  clock : Option Clock := none
  deriving DecidableEq, Repr

namespace Timestamp

/-- The digits of a number, padded with zeros to a width. -/
def padded (width n : Nat) : String :=
  let digits := Nat.toDigits 10 n
  String.ofList (List.replicate (width - digits.length) '0' ++ digits)

/-- A distance as days and the seconds left over, in the form that messages show. -/
def shownDistance (minutes : Int) : String :=
  let days := minutes.fdiv 1440
  let seconds := (minutes - 1440 * days) * 60
  let parts := (if days == 0 then [] else [s!"days={days}"])
    ++ (if seconds == 0 then [] else [s!"seconds={seconds}"])
  "datetime.timedelta(" ++ (if parts.isEmpty then "0" else String.intercalate ", " parts) ++ ")"

/-- The distance from universal time behind a time of the day. -/
def offsetText (minutes : Int) : String :=
  let size := minutes.natAbs
  (if minutes < 0 then "-" else "+") ++ padded 2 (size / 60) ++ ":" ++ padded 2 (size % 60)

/-- The text of a time of the day. -/
def clockText (clock : Clock) : String :=
  padded 2 clock.hour ++ ":" ++ padded 2 clock.minute ++ ":" ++ padded 2 clock.second
    ++ (if clock.micros == 0 then "" else "." ++ padded 6 clock.micros)
    ++ (clock.offset.map offsetText).getD ""

/-- The text of a point in time. -/
def text (stamp : Timestamp) : String :=
  let day := padded 4 stamp.year ++ "-" ++ padded 2 stamp.month ++ "-" ++ padded 2 stamp.day
  match stamp.clock with
  | none => day
  | some clock => day ++ " " ++ clockText clock

/-- The distance from universal time in the literal form. -/
def zoneLiteral (minutes : Int) : String :=
  if minutes == 0 then "tzinfo=datetime.timezone.utc"
  else "tzinfo=datetime.timezone(" ++ shownDistance minutes ++ ")"

/-- The literal form of a point in time: seconds and their parts are left out where they are zero. -/
def literal (stamp : Timestamp) : String :=
  let day := [toString stamp.year, toString stamp.month, toString stamp.day]
  match stamp.clock with
  | none => "datetime.date(" ++ String.intercalate ", " day ++ ")"
  | some clock =>
    let fine :=
      if clock.micros != 0 then [toString clock.second, toString clock.micros]
      else if clock.second != 0 then [toString clock.second]
      else []
    let zone := (clock.offset.map zoneLiteral).toList
    let parts := day ++ [toString clock.hour, toString clock.minute] ++ fine ++ zone
    "datetime.datetime(" ++ String.intercalate ", " parts ++ ")"

/-- Why parts are no point in time. -/
inductive Fault where
  /-- The distance from universal time is a day or more. -/
  | offset (minutes : Int)
  /-- There is no such year. -/
  | year (n : Nat)
  /-- There is no such month. -/
  | month
  /-- The month has no such day. -/
  | day
  /-- There is no such hour. -/
  | hour
  /-- There is no such minute. -/
  | minute
  /-- There is no such second. -/
  | second
  deriving DecidableEq, Repr

/-- The words of a fault. -/
def Fault.message : Fault → String
  | .offset minutes =>
    let shown := shownDistance minutes
    "offset must be a timedelta strictly between -timedelta(hours=24) and timedelta(hours=24), not "
      ++ shown ++ "."
  | .year n => s!"year {n} is out of range"
  | .month => "month must be in 1..12"
  | .day => "day is out of range for month"
  | .hour => "hour must be in 0..23"
  | .minute => "minute must be in 0..59"
  | .second => "second must be in 0..59"

/-- Whether a year has a day more in February. -/
def isLeap (year : Nat) : Bool := year % 4 == 0 && (year % 100 != 0 || year % 400 == 0)

/-- How many days a month has. -/
def daysIn (year month : Nat) : Nat :=
  if month == 2 then if isLeap year then 29 else 28
  else if [4, 6, 9, 11].contains month then 30
  else 31

/-- The first part of a time of the day that is out of range. -/
def clockFault? (clock : Clock) : Option Fault :=
  if 23 < clock.hour then some .hour
  else if 59 < clock.minute then some .minute
  else if 59 < clock.second then some .second
  else none

/-- The first part that is out of range. -/
def fault? (stamp : Timestamp) : Option Fault :=
  let offset := (stamp.clock.bind Clock.offset).getD 0
  if 1440 ≤ offset.natAbs then some (.offset offset)
  else if stamp.year == 0 then some (.year stamp.year)
  else if stamp.month == 0 || 12 < stamp.month then some .month
  else if stamp.day == 0 || daysIn stamp.year stamp.month < stamp.day then some .day
  else stamp.clock.bind clockFault?

/-- A number of so many digits at the front, and what follows it. -/
def number? (least most : Nat) (cs : List Char) : Option (Nat × List Char) :=
  let digits := cs.takeWhile isAsciiDigit
  if least ≤ digits.length && digits.length ≤ most then
    some (asciiNat digits, cs.drop digits.length)
  else none

/-- What follows a character at the front. -/
def after? (mark : Char) : List Char → Option (List Char)
  | c :: rest => if c == mark then some rest else none
  | [] => none

/-- Whether a character is a space or a tab. -/
def isBlank (c : Char) : Bool := c == ' ' || c == '\t'

/-- The millionth parts that the digits after a point stand for. -/
def microsOf (digits : List Char) : Nat :=
  asciiNat ((digits ++ List.replicate 6 '0').take 6)

/-- The distance from universal time at the end of a text. -/
def offset? (cs : List Char) : Option (Option Int) :=
  match cs.dropWhile isBlank with
  | [] => if cs.isEmpty then some none else none
  | ['Z'] => some (some 0)
  | sign :: rest => do
    if sign != '+' && sign != '-' then none
    let (hours, tail) ← number? 1 2 rest
    let minutes ← match tail with
      | [] => some 0
      | _ => do
        let (minutes, stop) ← number? 2 2 (← after? ':' tail)
        if stop.isEmpty then some minutes else none
    let size : Int := 60 * hours + minutes
    return some (if sign == '-' then -size else size)

/-- The time of the day that a text spells. -/
def clock? (cs : List Char) : Option Clock := do
  let (hour, rest) ← number? 1 2 cs
  let (minute, rest) ← number? 2 2 (← after? ':' rest)
  let (second, rest) ← number? 2 2 (← after? ':' rest)
  let (fraction, rest) := match rest with
    | '.' :: digits => (digits.takeWhile isAsciiDigit, digits.dropWhile isAsciiDigit)
    | _ => ([], rest)
  let offset ← offset? rest
  return { hour, minute, second, micros := microsOf fraction, offset }

/-- What follows the mark between a day and a time: a letter, or blanks. -/
def afterDay? : List Char → Option (List Char)
  | c :: rest =>
    if c == 'T' || c == 't' then some rest
    else if isBlank c then some (rest.dropWhile isBlank)
    else none
  | [] => none

/-- The point in time that a text spells, whether or not it exists. Without a time the month and the
day have two digits each. -/
def spelled? (cs : List Char) : Option Timestamp := do
  let (year, rest) ← number? 4 4 cs
  let monthText ← after? '-' rest
  let (month, rest) ← number? 1 2 monthText
  let dayText ← after? '-' rest
  let (day, rest) ← number? 1 2 dayText
  if rest.isEmpty then
    if cs.length == 10 then some { year, month, day } else none
  else return { year, month, day, clock := some (← clock? (← afterDay? rest)) }

end Timestamp

end PredicateIndex
