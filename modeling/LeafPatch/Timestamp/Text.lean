import LeafPatch.Timestamp.Basic

/-!
# Internet timestamps

The text form of RFC 3339: date, time of day with any number of fraction digits,
and the offset of the zone they are given in.  Reading converts to universal
time and keeps nine fraction digits; writing is always in universal time, with
the fewest of zero, three, six and nine fraction digits that are exact.
-/

namespace LeafPatch.Timestamp

/-! ## Reading -/

/-- A date and time of day as written, and the minutes by which its zone is ahead. -/
structure Civil where
  date : Date
  hour : Nat
  minute : Nat
  second : Nat
  nanos : Nat
  ahead : Int

/-- Reads exactly `count` digits. -/
def readDigits? : Nat → List Char → Option (Nat × List Char)
  | 0, text => some (0, text)
  | count + 1, digit :: rest => do
      guard digit.isDigit
      let (value, rest) ← readDigits? count rest
      return ((digit.toNat - '0'.toNat) * Nat.pow 10 count + value, rest)
  | _ + 1, [] => none

/-- Reads one of some characters. -/
def readOneOf? (expected : List Char) : List Char → Option (List Char)
  | [] => none
  | character :: rest =>
      if expected.contains character then some rest else none

/-- The nanoseconds that fraction digits stand for, those after the ninth dropped. -/
def nanosOfDigits (digits : List Char) : Nat :=
  let kept := digits.take 9
  Nat.ofDigitChars 10 kept 0 * Nat.pow 10 (9 - kept.length)

/-- Reads a fraction, a point and one digit or more, if there is a point. -/
def readFraction? : List Char → Option (Nat × List Char)
  | '.' :: text => do
      let digits := text.takeWhile Char.isDigit
      guard (!digits.isEmpty)
      return (nanosOfDigits digits, text.dropWhile Char.isDigit)
  | text => some (0, text)

/-- The signs of an offset that say that the zone is behind. -/
def minusSigns : List Char :=
  ['-', '\u2212']

/-- Reads an offset: `Z`, or a sign, hours and minutes below a day. -/
def readOffset? : List Char → Option (Int × List Char)
  | [] => none
  | sign :: text =>
      if sign = 'Z' ∨ sign = 'z' then
        some (0, text)
      else do
        guard (sign = '+' ∨ minusSigns.contains sign)
        let (hours, text) ← readDigits? 2 text
        let text ← readOneOf? [':'] text
        let (minutes, text) ← readDigits? 2 text
        guard (hours < 24 ∧ minutes < 60)
        let offset : Int := (hours * 60 + minutes : Nat)
        return (if sign = '+' then offset else -offset, text)

/-- Reads a date and time of day with its offset, and nothing after it. -/
def readCivil? (text : List Char) : Option Civil := do
  let (year, text) ← readDigits? 4 text
  let text ← readOneOf? ['-'] text
  let (month, text) ← readDigits? 2 text
  let text ← readOneOf? ['-'] text
  let (day, text) ← readDigits? 2 text
  let text ← readOneOf? ['T', 't', ' '] text
  let (hour, text) ← readDigits? 2 text
  let text ← readOneOf? [':'] text
  let (minute, text) ← readDigits? 2 text
  let text ← readOneOf? [':'] text
  let (second, text) ← readDigits? 2 text
  let (nanos, text) ← readFraction? text
  let (ahead, text) ← readOffset? text
  guard text.isEmpty
  let date ← Date.of? year month day
  if second = 60 then
    return ⟨date, hour, minute, 59, nanos + nanosPerSecond, ahead⟩
  else
    return ⟨date, hour, minute, second, nanos, ahead⟩

/-- The date some days off, for offsets of at most one day. -/
def shiftDay (date : Date) (days : Int) : Date :=
  if days < 0 then date.previous
  else if 0 < days then date.next
  else date

/-- Converts to universal time, if the time of day is in range. -/
def ofCivil? (civil : Civil) : Option Timestamp := do
  guard (civil.hour < 24 ∧ civil.minute < 60)
  let minutes : Int :=
    (civil.hour * 60 + civil.minute : Nat) - civil.ahead
  let minuteOfDay := (minutes % 1440).toNat
  of? (shiftDay civil.date (minutes / 1440))
    (minuteOfDay / 60) (minuteOfDay % 60) civil.second civil.nanos

/-- Reads a timestamp that is the whole text. -/
def parse? (text : String) : Option Timestamp := do
  let civil ← readCivil? text.toList
  ofCivil? civil

/-! ## Writing -/

/-- A natural number in at least `width` digits. -/
def writePadded (width value : Nat) : List Char :=
  let digits := Nat.toDigits 10 value
  List.replicate (width - digits.length) '0' ++ digits

/-- A year: four digits, and a sign as well when it is not from 0 to 9999. -/
def writeYear (year : Int) : List Char :=
  if 0 ≤ year ∧ year ≤ 9999 then
    writePadded 4 year.toNat
  else
    (if year < 0 then '-' else '+') :: writePadded 4 year.natAbs

/-- A fraction of a second with the fewest of zero, three, six and nine digits. -/
def writeFraction (nanos : Nat) : List Char :=
  if nanos = 0 then
    []
  else if nanos % 1000000 = 0 then
    '.' :: writePadded 3 (nanos / 1000000)
  else if nanos % 1000 = 0 then
    '.' :: writePadded 6 (nanos / 1000)
  else
    '.' :: writePadded 9 nanos

/-- The written form; the extra second of a leap second is second 60. -/
def write (timestamp : Timestamp) : List Char :=
  let second :=
    if nanosPerSecond ≤ timestamp.nanos then 60 else timestamp.second
  writeYear timestamp.date.year
    ++ '-' :: writePadded 2 timestamp.date.month
    ++ '-' :: writePadded 2 timestamp.date.day
    ++ 'T' :: writePadded 2 timestamp.hour
    ++ ':' :: writePadded 2 timestamp.minute
    ++ ':' :: writePadded 2 second
    ++ writeFraction (timestamp.nanos % nanosPerSecond)
    ++ ['Z']

/-- The written form, as a string. -/
def render (timestamp : Timestamp) : String :=
  String.ofList timestamp.write

end LeafPatch.Timestamp
