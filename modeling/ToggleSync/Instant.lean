-- Points in time, to the nanosecond, and their text in the manner of RFC 3339.
import ToggleSync.Calendar
import ToggleSync.Text.Blank

namespace ToggleSync

open Calendar

structure Instant where
  /-- Seconds since 1970-01-01T00:00:00Z. -/
  second : Int
  /-- From 10^9 on, a time within the leap second that follows `second`. -/
  nano : Nat
  deriving DecidableEq, Repr, Inhabited

namespace Instant

def ofMillis (n : Int) : Instant := ⟨n / 1000, (n % 1000).toNat * 1000000⟩

def epoch : Instant := ⟨0, 0⟩

/-- The first year that an instant can lie in. -/
def firstYear : Int := -262143

/-- The last year that an instant can lie in. -/
def lastYear : Int := 262142

def firstSecond : Int := Date.toDays ⟨firstYear, 1, 1⟩ * 86400

/-- The first second that no instant can lie in any more. -/
def endSecond : Int := Date.toDays ⟨lastYear + 1, 1, 1⟩ * 86400

def inRange (i : Instant) : Bool := firstSecond ≤ i.second && i.second < endSecond

/-! ## Writing -/

/-- A number with at least the given count of digits. -/
def padded (width n : Nat) : List Char :=
  let ds := Nat.toDigits 10 n
  List.replicate (width - ds.length) '0' ++ ds

/-- Four digits, and a sign where they are not enough or the year lies before 0. -/
def yearChars (year : Int) : List Char :=
  if year < 0 then '-' :: padded 4 year.natAbs
  else if 9999 < year then '+' :: padded 4 year.natAbs
  else padded 4 year.natAbs

/-- The fraction of a second, in the fewest groups of three digits that lose nothing. -/
def fractionChars (nano : Nat) : List Char :=
  if nano == 0 then []
  else if nano % 1000000 == 0 then '.' :: padded 3 (nano / 1000000)
  else if nano % 1000 == 0 then '.' :: padded 6 (nano / 1000)
  else '.' :: padded 9 nano

def render (i : Instant) : String :=
  let date := Date.ofDays (i.second / 86400)
  let time := (i.second % 86400).toNat
  let leap := i.nano / 1000000000
  String.ofList <| yearChars date.year ++ '-' :: padded 2 date.month ++ '-' :: padded 2 date.day ++
    'T' :: padded 2 (time / 3600) ++ ':' :: padded 2 (time / 60 % 60) ++
    ':' :: padded 2 (time % 60 + leap) ++ fractionChars (i.nano % 1000000000) ++ ['Z']

/-! ## Reading -/

/-- From one to `width` digits, after white space. -/
def readNumber (width : Nat) (cs : List Char) : Option (Nat × List Char) :=
  let cs := cs.dropWhile isBlank
  let ds := (cs.takeWhile isAsciiDigit).take width
  if ds.isEmpty then none
  else some (ds.foldl (fun n c => n * 10 + digitValue c) 0, cs.drop ds.length)

/-- A year with a sign may have any count of digits. -/
def readYear (cs : List Char) : Option (Int × List Char) :=
  match cs.dropWhile isBlank with
  | '-' :: r => do
    let (n, r) ← signed r
    some (-(n : Int), r)
  | '+' :: r => do
    let (n, r) ← signed r
    some (n, r)
  | cs => do
    let (n, r) ← readNumber 4 cs
    some (n, r)
where
  signed (cs : List Char) : Option (Nat × List Char) :=
    match cs with
    | c :: _ => if isAsciiDigit c then readNumber cs.length cs else none
    | [] => none

/-- A sign between two numbers, with white space before it. -/
def readMark (mark : Char) (cs : List Char) : Option (List Char) :=
  match cs.dropWhile isBlank with
  | c :: r => if c == mark then some r else none
  | [] => none

/-- A fraction of a second, of which nine digits count. -/
def readFraction (cs : List Char) : Option (Nat × List Char) :=
  match cs with
  | '.' :: r =>
    let ds := r.takeWhile isAsciiDigit
    if ds.isEmpty then none
    else
      let kept := ds.take 9
      some (kept.foldl (fun n c => n * 10 + digitValue c) 0 * Nat.pow 10 (9 - kept.length),
        r.drop ds.length)
  | r => some (0, r)

def readTwoDigits (cs : List Char) : Option (Nat × List Char) :=
  match cs with
  | a :: b :: r =>
    if isAsciiDigit a && isAsciiDigit b then some (digitValue a * 10 + digitValue b, r) else none
  | _ => none

/-- The offset from UTC, in seconds. -/
def readOffset (cs : List Char) : Option (Int × List Char) :=
  match cs with
  | 'Z' :: r => some (0, r)
  | 'z' :: r => some (0, r)
  | '+' :: r => hoursAndMinutes r 1
  | '-' :: r => hoursAndMinutes r (-1)
  | '\u2212' :: r => hoursAndMinutes r (-1)
  | u :: t :: c :: r => if [u, t, c].map Char.toUpper == ['U', 'T', 'C'] then some (0, r) else none
  | _ => none
where
  hoursAndMinutes (cs : List Char) (sign : Int) : Option (Int × List Char) := do
    let (h, r) ← readTwoDigits cs
    let (m, r) ← readTwoDigits (r.dropWhile fun c => c == ':' || isBlank c)
    if m < 60 && h < 24 then some (sign * (h * 3600 + m * 60), r) else none

/-- A date of the years that an instant can lie in. -/
def readDate (cs : List Char) : Option (Date × List Char) := do
  let (year, r) ← readYear cs
  let (month, r) ← readNumber 2 (← readMark '-' r)
  let (day, r) ← readNumber 2 (← readMark '-' r)
  let date : Date := ⟨year, month, day⟩
  if firstYear ≤ year && year ≤ lastYear && date.isValid then some (date, r) else none

/-- The second of the day, 60 standing for a leap second, and the nanosecond. -/
def readTime (cs : List Char) : Option (Nat × Nat × List Char) := do
  let (hour, r) ← readNumber 2 cs
  let (minute, r) ← readNumber 2 (← readMark ':' r)
  let (second, r) ← readNumber 2 (← readMark ':' r)
  let (nano, r) ← readFraction r
  if hour < 24 && minute < 60 && second ≤ 60 then
    if second == 60 then some (hour * 3600 + minute * 60 + 59, nano + 1000000000, r)
    else some (hour * 3600 + minute * 60 + second, nano, r)
  else none

/-- The date has to be one of the years, and so has the date in UTC. -/
def read? (text : String) : Option Instant := do
  let (date, r) ← readDate text.toList
  let r ← match r with
    | 'T' :: r => some r
    | 't' :: r => some r
    | ' ' :: r => some r
    | _ => none
  let (second, nano, r) ← readTime r
  let (offset, r) ← readOffset (r.dropWhile isBlank)
  let instant : Instant := ⟨date.toDays * 86400 + second - offset, nano⟩
  if r.all isBlank && instant.inRange then some instant else none

end Instant

end ToggleSync
