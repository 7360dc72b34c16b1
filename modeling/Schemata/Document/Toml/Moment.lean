import Schemata.Document.Toml.Number

/-!
# Dates and times of TOML

A moment is a date, a time of day, or a date and a time of day with or without a distance from
universal time. It is read from one form among several and written in one form.

## Main definitions

* `Date`, `Clock`, `Offset`, `Moment`.
* `Moment.read?`: the moment that a text stands for, if it exists.
* `Moment.write`: the text of a moment.
-/

namespace Schemata.Document.Toml

open Text

/-- A day of the calendar. -/
structure Date where
  year : Nat
  month : Nat
  day : Nat
  deriving DecidableEq, Repr

/-- A time of day, to the nanosecond. -/
structure Clock where
  hour : Nat
  minute : Nat
  second : Nat := 0
  nanosecond : Nat := 0
  deriving DecidableEq, Repr

/-- A distance from universal time. -/
inductive Offset where
  /-- Universal time itself, written as a letter. -/
  | zulu
  /-- Minutes, ahead of universal time or behind it. -/
  | minutes (n : Int)
  deriving DecidableEq, Repr

/-- A date, a time of day, or both. -/
inductive Moment where
  | date (d : Date)
  | time (t : Clock)
  | both (d : Date) (t : Clock) (offset : Option Offset)
  deriving DecidableEq, Repr

/-! ## Reading -/

/-- The value of exactly `size` digits. -/
def fixed? (size : Nat) (cs : List Char) : Option Nat :=
  if cs.length = size && cs.all isAsciiDigit then some (decimalValue cs) else none

/-- The value of exactly two digits, at most `most`. -/
def twoDigits? (most : Nat) (cs : List Char) : Option Nat :=
  (fixed? 2 cs).filter (· ≤ most)

/-- Whether a year has a leap day. -/
def isLeap (year : Nat) : Bool := (year % 4 == 0 && year % 100 != 0) || year % 400 == 0

/-- How many days a month has. -/
def daysIn (year month : Nat) : Nat :=
  if month = 2 then if isLeap year then 29 else 28
  else if month = 4 || month = 6 || month = 9 || month = 11 then 30
  else 31

/-- The date that a text stands for, if there is such a day. -/
def Date.read? (cs : List Char) : Option Date :=
  match cs.splitOn '-' with
  | [y, m, d] => do
    let year ← fixed? 4 y
    let month ← twoDigits? 12 m
    let day ← twoDigits? (daysIn year month) d
    if 1 ≤ month && 1 ≤ day then some ⟨year, month, day⟩ else none
  | _ => none

/-- The nanoseconds of a fraction of a second. Digits beyond the ninth do not count. -/
def nanoseconds? (fraction : List Char) : Option Nat :=
  if fraction.isEmpty || !fraction.all isAsciiDigit then none
  else
    let digits := fraction.take 9
    some (decimalValue digits * Nat.pow 10 (9 - digits.length))

/-- The seconds and nanoseconds of a text. A leap second counts. -/
def seconds? (cs : List Char) : Option (Nat × Nat) := do
  let (whole, fraction) := cutAt (· == '.') cs
  let second ← twoDigits? 60 whole
  match fraction with
  | some f => (nanoseconds? f).map fun n => (second, n)
  | none => some (second, 0)

/-- The time of day that a text stands for. Seconds may be left out. -/
def Clock.read? (cs : List Char) : Option Clock :=
  match cs.splitOn ':' with
  | [h, m] => do return { hour := ← twoDigits? 23 h, minute := ← twoDigits? 59 m }
  | [h, m, s] => do
    let (second, nanosecond) ← seconds? s
    return ⟨← twoDigits? 23 h, ← twoDigits? 59 m, second, nanosecond⟩
  | _ => none

/-- The hours and minutes of an offset, as minutes. -/
def offsetMinutes? (cs : List Char) : Option Nat :=
  match cs.splitOn ':' with
  | [h, m] => do return 60 * (← twoDigits? 23 h) + (← twoDigits? 59 m)
  | _ => none

/-- Whether a character begins an offset. -/
def isOffsetMark (c : Char) : Bool := c == 'Z' || c == 'z' || c == '+' || c == '-'

/-- The time of day that a text stands for, with its offset. -/
def Clock.readOffset? (cs : List Char) : Option (Clock × Option Offset) :=
  match cs.span fun c => !isOffsetMark c with
  | (time, []) => do return (← Clock.read? time, none)
  | (time, mark :: rest) => do
    let clock ← Clock.read? time
    if mark == 'Z' || mark == 'z' then
      if rest.isEmpty then some (clock, some .zulu) else none
    else
      let n ← offsetMinutes? rest
      return (clock, some (.minutes (withSign (mark == '-') n)))

/-- The moment that a text stands for. The letter between a date and a time may be a blank. -/
def Moment.read? (cs : List Char) : Option Moment :=
  match cutAt (fun c => c == 'T' || c == 't' || c == ' ') cs with
  | (before, some after) => do
    let d ← Date.read? before
    let (t, offset) ← Clock.readOffset? after
    return .both d t offset
  | (_, none) => (Date.read? cs).map .date <|> (Clock.read? cs).map .time

/-! ## Writing -/

/-- A number in decimal digits, of which there are at least `size`. -/
def padded (size n : Nat) : List Char :=
  let digits := (toString n).toList
  List.replicate (size - digits.length) '0' ++ digits

/-- The text of a date. -/
def Date.write (d : Date) : List Char :=
  padded 4 d.year ++ '-' :: padded 2 d.month ++ '-' :: padded 2 d.day

/-- The text of a fraction of a second: no zeros at its end, and nothing for none. -/
def writeFraction (nanosecond : Nat) : List Char :=
  if nanosecond = 0 then []
  else '.' :: ((padded 9 nanosecond).reverse.dropWhile (· == '0')).reverse

/-- The text of a time of day. -/
def Clock.write (t : Clock) : List Char :=
  padded 2 t.hour ++ ':' :: padded 2 t.minute ++ ':' :: padded 2 t.second
    ++ writeFraction t.nanosecond

/-- The text of an offset. -/
def Offset.write : Offset → List Char
  | .zulu => ['Z']
  | .minutes n =>
    let size := n.natAbs
    (if n < 0 then '-' else '+') :: padded 2 (size / 60) ++ ':' :: padded 2 (size % 60)

/-- The text of a moment. -/
def Moment.write : Moment → List Char
  | .date d => d.write
  | .time t => t.write
  | .both d t offset => d.write ++ 'T' :: t.write ++ (offset.map Offset.write).getD []

/-- The name under which a moment holds its text. -/
def momentName : String := "$__toml_private_datetime"

/-- A moment as a value: a table with one entry, its text. -/
def Moment.toValue (m : Moment) : Value := .table [(momentName, .text (String.ofList m.write))]

end Schemata.Document.Toml
