import Workflow.Text
/-!
# Times of creation

A time is read in the relaxed form of RFC 3339 that lets blanks stand around its parts and numbers have
fewer digits than their place, and kept in universal time.  It is written with a `Z` and the fewest of
zero, three, six or nine digits of a second that hold it.

Days are counted from 1970-01-01 in the calendar of today, extended to all years.
-/
namespace Workflow

/-- A moment in universal time: a day, a second of it, and billionths of a second, of which a leap second
has twice as many. -/
structure Timestamp where
  day : Int
  second : Nat
  nanosecond : Nat
deriving DecidableEq, Repr

namespace Timestamp

inductive Fault where
  | tooShort
  | invalid
  | outOfRange
  | impossible
  | tooLong
deriving DecidableEq, Repr

def Fault.message : Fault → String
  | .tooShort => "premature end of input"
  | .invalid => "input contains invalid characters"
  | .outOfRange => "input is out of range"
  | .impossible => "no possible date and time matching input"
  | .tooLong => "trailing input"

/-! ## The calendar -/

/-- Is February a day longer? -/
def isLeap (year : Int) : Bool := year % 4 == 0 && (year % 100 != 0 || year % 400 == 0)

def monthLength (year : Int) (month : Nat) : Nat :=
  if month = 2 then (if isLeap year then 29 else 28)
  else if month = 4 ∨ month = 6 ∨ month = 9 ∨ month = 11 then 30
  else 31

/-- The days from 1970-01-01 to a date.  Years are taken to begin in March, so that a leap day is the last
day of its year. -/
def dayOfDate (year : Int) (month day : Nat) : Int :=
  let shifted := if month ≤ 2 then year - 1 else year
  let era := shifted.fdiv 400
  let yearOfEra := shifted - era * 400
  let monthFromMarch := (month + 9) % 12
  let dayOfYear : Int := Int.ofNat ((153 * monthFromMarch + 2) / 5 + day - 1)
  let dayOfEra := yearOfEra * 365 + yearOfEra / 4 - yearOfEra / 100 + dayOfYear
  era * 146097 + dayOfEra - 719468

def dateOfDay (days : Int) : Int × Nat × Nat :=
  let shifted := days + 719468
  let era := shifted.fdiv 146097
  let dayOfEra := (shifted - era * 146097).toNat
  let yearOfEra := (dayOfEra - dayOfEra / 1460 + dayOfEra / 36524 - dayOfEra / 146096) / 365
  let dayOfYear := dayOfEra - (365 * yearOfEra + yearOfEra / 4 - yearOfEra / 100)
  let monthFromMarch := (5 * dayOfYear + 2) / 153
  let day := dayOfYear - (153 * monthFromMarch + 2) / 5 + 1
  let month := if monthFromMarch < 10 then monthFromMarch + 3 else monthFromMarch - 9
  (Int.ofNat yearOfEra + era * 400 + (if month ≤ 2 then 1 else 0), month, day)

def yearInRange (year : Int) : Bool := -262143 ≤ year && year ≤ 262142

/-! ## Reading -/

/-- Part of a time at the front of a text, and what follows it. -/
abbrev Front (α : Type) := α × List Char

/-- At least one and at most `most` digits. -/
def number (most : Nat) (cs : List Char) : Except Fault (Front Nat) :=
  let digits := (cs.take most).takeWhile Char.isDigit
  if cs.isEmpty then .error .tooShort
  else if digits.isEmpty then .error .invalid
  else
    let value := digits.foldl (fun n c => n * 10 + (c.toNat - '0'.toNat)) 0
    if value < Nat.pow 2 63 then .ok (value, cs.drop digits.length) else .error .outOfRange

def bounded (low high : Nat) (cs : List Char) : Except Fault (Front Nat) := do
  let (n, rest) ← number 2 (Text.trimLeft cs)
  if low ≤ n && n ≤ high then return (n, rest) else throw .outOfRange

/-- Years are not read from here on, nor as far below zero. -/
def yearLimit : Int := 2147483648

/-- A year: four digits at most, or any number of digits after a sign. -/
def year (cs : List Char) : Except Fault (Front Int) := do
  let (n, rest) ← match Text.trimLeft cs with
    | '-' :: cs => (number cs.length cs).map fun r => (-Int.ofNat r.1, r.2)
    | '+' :: cs => (number cs.length cs).map fun r => (Int.ofNat r.1, r.2)
    | cs => (number 4 cs).map fun r => (Int.ofNat r.1, r.2)
  if -yearLimit ≤ n && n < yearLimit then return (n, rest) else throw .outOfRange

/-- A mark between numbers, blanks before it allowed. -/
def mark (m : Char) (cs : List Char) : Except Fault (List Char) :=
  match Text.trimLeft cs with
  | [] => .error .tooShort
  | c :: rest => if c = m then .ok rest else .error .invalid

/-- The fraction of a second in billionths, if there is one; digits beyond the ninth say nothing. -/
def fraction : List Char → Except Fault (Front Nat)
  | '.' :: cs => do
    let digits := (cs.take 9).takeWhile Char.isDigit
    let (n, rest) ← number 9 cs
    return (n * Nat.pow 10 (9 - digits.length), rest.dropWhile Char.isDigit)
  | cs => .ok (0, cs)

def twoDigits : List Char → Except Fault (Front Nat)
  | a :: b :: rest =>
    if a.isDigit && b.isDigit then
      .ok ((a.toNat - '0'.toNat) * 10 + (b.toNat - '0'.toNat), rest)
    else .error .invalid
  | [a] => .error (if 2 ≤ a.utf8Size then .invalid else .tooShort)
  | [] => .error .tooShort

/-- The seconds that local time is ahead, in hours and minutes after a sign. -/
def signedOffset (negative : Bool) (cs : List Char) : Except Fault (Front Int) := do
  let (hours, rest) ← twoDigits cs
  let (minutes, rest) ← twoDigits (rest.dropWhile fun c => c == ':' || Text.isBlank c)
  if 60 ≤ minutes then throw .outOfRange
  let seconds := Int.ofNat (hours * 3600 + minutes * 60)
  return (if negative then -seconds else seconds, rest)

def offset (cs : List Char) : Except Fault (Front Int) :=
  match cs with
  | [] => .error .tooShort
  | a :: b :: c :: rest =>
    if [a.toUpper, b.toUpper, c.toUpper] = ['U', 'T', 'C'] then .ok (0, rest) else byZone a (b :: c :: rest)
  | a :: rest => byZone a rest
where
  byZone (a : Char) (rest : List Char) : Except Fault (Front Int) :=
    if a = 'Z' ∨ a = 'z' then .ok (0, rest)
    else if a = '+' then signedOffset false rest
    else if a = '-' ∨ a = '−' then signedOffset true rest
    else .error .invalid

/-- The moment so many seconds and billionths of a second after the beginning of 1970. -/
def ofUnix (seconds : Int) (nanosecond : Nat) : Timestamp :=
  let day := seconds.fdiv 86400
  ⟨day, (seconds - day * 86400).toNat, nanosecond⟩

def ofLocal (year : Int) (month day second nanosecond : Nat) (ahead : Int) : Except Fault Timestamp :=
  if !yearInRange year || monthLength year month < day || 86400 ≤ ahead.natAbs then .error .outOfRange
  else
    let moment := ofUnix (dayOfDate year month day * 86400 + second - ahead) nanosecond
    if yearInRange (dateOfDay moment.day).1 then .ok moment else .error .impossible

def ofText (text : String) : Except Fault Timestamp := do
  let (y, cs) ← year text.toList
  let (month, cs) ← bounded 1 12 (← mark '-' cs)
  let (day, cs) ← bounded 1 31 (← mark '-' cs)
  let cs ← match cs with
    | [] => throw .tooShort
    | c :: rest => if c = 't' ∨ c = 'T' ∨ c = ' ' then pure rest else throw .invalid
  let (hour, cs) ← bounded 0 23 cs
  let (minute, cs) ← bounded 0 59 (← mark ':' cs)
  let (second, cs) ← bounded 0 60 (← mark ':' cs)
  let (nano, cs) ← fraction cs
  let (ahead, rest) ← offset (Text.trimLeft cs)
  if !(Text.trimLeft rest).isEmpty then throw .tooLong
  if second = 60 then ofLocal y month day (hour * 3600 + minute * 60 + 59) (1000000000 + nano) ahead
  else ofLocal y month day (hour * 3600 + minute * 60 + second) nano ahead

/-! ## Writing -/

def padded (width n : Nat) : String :=
  let digits := toString n
  "".pushn '0' (width - digits.length) ++ digits

/-- A year in four digits, or with a sign if it does not fit. -/
def yearText (y : Int) : String :=
  if 0 ≤ y && y ≤ 9999 then padded 4 y.toNat
  else (if y < 0 then "-" else "+") ++ padded 4 y.natAbs

/-- The digits of a second after its point, as few as hold it. -/
def fractionText (nano : Nat) : String :=
  if nano = 0 then ""
  else if nano % 1000000 = 0 then "." ++ padded 3 (nano / 1000000)
  else if nano % 1000 = 0 then "." ++ padded 6 (nano / 1000)
  else "." ++ padded 9 nano

def text (t : Timestamp) : String :=
  let (y, month, day) := dateOfDay t.day
  let leap := 1000000000 ≤ t.nanosecond
  let second := t.second % 60 + if leap then 1 else 0
  let nano := if leap then t.nanosecond - 1000000000 else t.nanosecond
  yearText y ++ "-" ++ padded 2 month ++ "-" ++ padded 2 day
    ++ "T" ++ padded 2 (t.second / 3600) ++ ":" ++ padded 2 (t.second / 60 % 60) ++ ":" ++ padded 2 second
    ++ fractionText nano ++ "Z"

end Timestamp

end Workflow
