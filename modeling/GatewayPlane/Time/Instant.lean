import GatewayPlane.Text.Blank
import GatewayPlane.Text.Digit

/-!
# Instants

Calendar times in the proleptic Gregorian calendar, read from RFC 3339 text with an
offset and written in UTC.
-/
namespace GatewayPlane

/-- A day counted from the first of March of year zero, a second of that day, and the
nanoseconds after it; a leap second has a thousand million nanoseconds or more. -/
structure Instant where
  day : Int
  second : Nat
  nanos : Nat
  deriving DecidableEq, Repr, Inhabited

namespace Instant

def isLeapYear (y : Int) : Bool := (y % 4 == 0 && y % 100 != 0) || y % 400 == 0

def daysInMonth (y : Int) (m : Nat) : Nat :=
  if m = 2 then if isLeapYear y then 29 else 28
  else if m = 4 ∨ m = 6 ∨ m = 9 ∨ m = 11 then 30
  else 31

/-- Days from the first of March of year zero. Years begin with March here, so that a leap
day ends one. -/
def dayOfDate (y : Int) (m d : Nat) : Int :=
  let year := if m ≤ 2 then y - 1 else y
  let month : Int := if m ≤ 2 then m + 9 else m - 3
  365 * year + year / 4 - year / 100 + year / 400 + (153 * month + 2) / 5 + (d : Int) - 1

/-- The year, month and day of a day number. -/
def dateOfDay (n : Int) : Int × Nat × Nat :=
  let era := n / 146097
  let inEra := n % 146097
  let year := (inEra - inEra / 1460 + inEra / 36524 - inEra / 146096) / 365
  let inYear := inEra - (365 * year + year / 4 - year / 100)
  let month := (5 * inYear + 2) / 153
  let day := inYear - (153 * month + 2) / 5 + 1
  let civil := if month < 10 then month + 3 else month - 9
  (era * 400 + year + (if civil ≤ 2 then 1 else 0), civil.toNat, day.toNat)

/-- The first day of the year -262143, and the last of the year 262142. -/
def firstDay : Int := dayOfDate (-262143) 1 1

def lastDay : Int := dayOfDate 262142 12 31

def skipBlank (s : List Char) : List Char := s.dropWhile Text.isBlank

/-- A number of one to `width` digits. -/
def readDigits (width : Nat) (s : List Char) : Option (Nat × List Char) :=
  match (s.take width).takeWhile Char.isDigit with
  | [] => none
  | digits => some (Text.digitsValue 10 digits, s.drop digits.length)

def readNumber (width : Nat) (s : List Char) : Option (Nat × List Char) :=
  readDigits width (skipBlank s)

/-- A year has up to four digits, or any number of them right after a sign. -/
def readYear (s : List Char) : Option (Int × List Char) :=
  match skipBlank s with
  | '-' :: rest => (readDigits rest.length rest).map fun (n, rest) => (-(n : Int), rest)
  | '+' :: rest => (readDigits rest.length rest).map fun (n, rest) => ((n : Int), rest)
  | s => (readDigits 4 s).map fun (n, rest) => ((n : Int), rest)

def readMark (mark : Char) (s : List Char) : Option (List Char) :=
  match skipBlank s with
  | c :: rest => if c == mark then some rest else none
  | [] => none

/-- Nanoseconds after a point; digits beyond the ninth are dropped. -/
def readFraction : List Char → Option (Nat × List Char)
  | '.' :: rest =>
    match rest.takeWhile Char.isDigit with
    | [] => none
    | digits =>
      let kept := (digits ++ List.replicate 9 '0').take 9
      some (Text.digitsValue 10 kept, rest.dropWhile Char.isDigit)
  | s => some (0, s)

/-- The offset from UTC in seconds. -/
def readOffset (s : List Char) : Option (Int × List Char) :=
  match skipBlank s with
  | c :: rest =>
    if c == 'Z' || c == 'z' then some (0, rest)
    else if (c :: rest.take 2).map Char.toUpper = ['U', 'T', 'C'] then some (0, rest.drop 2)
    else if c == '+' || c == '-' || c == '−' then
      match rest with
      | h :: h' :: rest =>
        match rest.dropWhile fun c => c == ':' || Text.isBlank c with
        | m :: m' :: rest =>
          if [h, h', m, m'].all Char.isDigit && m.toNat < '6'.toNat then
            let digit (c : Char) : Int := c.toNat - '0'.toNat
            let size := (10 * digit h + digit h') * 3600 + (10 * digit m + digit m') * 60
            some (if c == '+' then size else -size, rest)
          else none
        | _ => none
      | _ => none
    else none
  | [] => none

def parse? (text : String) : Option Instant := do
  let (year, s) ← readYear text.toList
  let s ← readMark '-' s
  let (month, s) ← readNumber 2 s
  let s ← readMark '-' s
  let (day, s) ← readNumber 2 s
  let s ← match s with
    | c :: s => if c == 'T' || c == 't' || c == ' ' then some s else none
    | [] => none
  let (hour, s) ← readNumber 2 s
  let s ← readMark ':' s
  let (minute, s) ← readNumber 2 s
  let s ← readMark ':' s
  let (second, s) ← readNumber 2 s
  let (nanos, s) ← readFraction s
  let (offset, s) ← readOffset s
  if !(skipBlank s).isEmpty then none
  if month = 0 ∨ 12 < month ∨ day = 0 ∨ daysInMonth year month < day ∨ 23 < hour ∨ 59 < minute
      ∨ 60 < second ∨ 86400 ≤ offset.natAbs then none
  let leap := second = 60
  let clock : Int := 3600 * hour + 60 * minute + (if leap then 59 else second) - offset
  let date := dayOfDate year month day
  let dateInUtc := date + clock / 86400
  if [date, dateInUtc].any fun n => n < firstDay ∨ lastDay < n then none
  return ⟨dateInUtc, (clock % 86400).toNat, if leap then nanos + 1_000_000_000 else nanos⟩

def padded (width n : Nat) : List Char :=
  let digits := Nat.toDigits 10 n
  List.replicate (width - digits.length) '0' ++ digits

/-- Four digits, or a sign and at least four outside the years 0 to 9999. -/
def writeYear (y : Int) : List Char :=
  if 0 ≤ y ∧ y ≤ 9999 then padded 4 y.toNat
  else (if y < 0 then '-' else '+') :: padded 4 y.natAbs

/-- The shortest of no, three, six and nine places that is exact. -/
def writeFraction (n : Nat) : List Char :=
  if n = 0 then []
  else if n % 1_000_000 = 0 then '.' :: padded 3 (n / 1_000_000)
  else if n % 1_000 = 0 then '.' :: padded 6 (n / 1_000)
  else '.' :: padded 9 n

def render (t : Instant) : String :=
  let (year, month, day) := dateOfDay t.day
  let second := t.second % 60 + t.nanos / 1_000_000_000
  String.ofList <|
    writeYear year ++ '-' :: padded 2 month ++ '-' :: padded 2 day
      ++ 'T' :: padded 2 (t.second / 3600) ++ ':' :: padded 2 (t.second / 60 % 60)
      ++ ':' :: padded 2 second ++ writeFraction (t.nanos % 1_000_000_000) ++ ['Z']

end Instant

end GatewayPlane
