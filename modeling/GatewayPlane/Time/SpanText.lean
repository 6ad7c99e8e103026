import GatewayPlane.Text.Blank
import GatewayPlane.Time.Span

/-!
# Spans in words

A span is written as a sum of terms, each a number and a unit, as in `1h 30m`. The
reader takes every unit from nanoseconds to years, and an exact decimal fraction of any
but the first; the writer uses each unit at most once, from the largest.
-/
namespace GatewayPlane.Span

inductive TimeUnit where
  | nanosecond | microsecond | millisecond | second | minute | hour | day | week | month | year
  deriving DecidableEq, Repr

namespace TimeUnit

def ofName? : String → Option TimeUnit
  | "nanos" | "nsec" | "ns" => some nanosecond
  | "usec" | "us" | "µs" => some microsecond
  | "millis" | "msec" | "ms" => some millisecond
  | "seconds" | "second" | "secs" | "sec" | "s" => some second
  | "minutes" | "minute" | "min" | "mins" | "m" => some minute
  | "hours" | "hour" | "hr" | "hrs" | "h" => some hour
  | "days" | "day" | "d" => some day
  | "weeks" | "week" | "wk" | "wks" | "w" => some week
  | "months" | "month" | "M" => some month
  | "years" | "year" | "yr" | "yrs" | "y" => some year
  | _ => none

/-- A month is 30.44 days and a year 365.25. -/
def nanos : TimeUnit → Nat
  | nanosecond => 1
  | microsecond => 1_000
  | millisecond => 1_000_000
  | second => 1_000_000_000
  | minute => 60 * 1_000_000_000
  | hour => 3600 * 1_000_000_000
  | day => 86400 * 1_000_000_000
  | week => 604800 * 1_000_000_000
  | month => 2630016 * 1_000_000_000
  | year => 31557600 * 1_000_000_000

/-- What whole numbers of the unit are counted in. -/
def wholeGrain : TimeUnit → Nat
  | nanosecond | microsecond | millisecond => 1
  | _ => 1_000_000_000

/-- What fractions of the unit are counted in; a nanosecond has none. -/
def fractionGrain? : TimeUnit → Option Nat
  | nanosecond => none
  | microsecond | millisecond | second | minute => some 1
  | _ => some 1_000_000_000

end TimeUnit

/-- Digits with white space among them, and what follows. -/
def digitRun : List Char → List Nat × List Char
  | [] => ([], [])
  | c :: rest =>
    if c.isDigit then
      let (digits, after) := digitRun rest
      ((c.toNat - '0'.toNat) :: digits, after)
    else if Text.isBlank c then digitRun rest
    else ([], c :: rest)

def valueOf (digits : List Nat) : Nat := digits.foldl (fun n digit => 10 * n + digit) 0

def isUnitChar (c : Char) : Bool := c.isAlpha || c == 'µ'

/-- Adds an amount counted in `grain` nanoseconds. Neither the amount nor the nanoseconds
below a second outgrow a 64-bit word. -/
def add? (d : Span) (amount grain : Nat) : Option Span :=
  if amount < UInt64.size ∧ (grain = 1 → d.subsecond + amount < UInt64.size) then
    ofNanos? (d.nanos + amount * grain)
  else none

/-- One number and its unit. -/
structure Term where
  whole : List Nat
  fraction : Option (List Nat)
  unit : TimeUnit

def Term.addTo? (t : Term) (d : Span) : Option Span := do
  let grain := t.unit.wholeGrain
  let n := valueOf t.whole
  if UInt64.size ≤ n then none
  let d ← d.add? (n * (t.unit.nanos / grain)) grain
  match t.fraction with
  | none => some d
  | some places => do
    let grain ← t.unit.fractionGrain?
    let part := valueOf places * (t.unit.nanos / grain)
    let whole := Nat.pow 10 places.length
    if UInt64.size ≤ whole ∨ UInt64.size ≤ part ∨ part % whole ≠ 0 then none
    else d.add? (part / whole) grain

/-- Reads a term from text that begins with a digit. -/
def readTerm (s : List Char) : Option (Term × List Char) := do
  let (whole, rest) := digitRun s
  let (fraction, rest) ← match rest with
    | '.' :: rest =>
      match digitRun rest with
      | ([], _) => none
      | (places, rest) => some (some places, rest)
    | _ => some (none, rest)
  let unit ← TimeUnit.ofName? (String.ofList (rest.takeWhile isUnitChar))
  return (⟨whole, fraction, unit⟩, rest.dropWhile isUnitChar)

/-- The terms of a text; each takes at least one character. -/
def readTerms : Nat → List Char → Option (List Term)
  | 0, s => if (s.dropWhile Text.isBlank).isEmpty then some [] else none
  | fuel + 1, s =>
    match s.dropWhile Text.isBlank with
    | [] => some []
    | c :: rest =>
      if c.isDigit then do
        let (term, rest) ← readTerm (c :: rest)
        let terms ← readTerms fuel rest
        return term :: terms
      else none

def parse? (text : String) : Option Span :=
  if text == "0" then some zero
  else
    match readTerms text.toList.length text.toList with
    | none | some [] => none
    | some terms => terms.foldlM (fun d term => term.addTo? d) zero

/-- The units of the written form, from the largest; a name that takes the plural has an
`s` after any number but one. -/
def writtenUnits : List (Nat × String × Bool) :=
  [(TimeUnit.year.nanos, "year", true), (TimeUnit.month.nanos, "month", true),
    (TimeUnit.day.nanos, "day", true), (TimeUnit.hour.nanos, "h", false),
    (TimeUnit.minute.nanos, "m", false), (TimeUnit.second.nanos, "s", false),
    (TimeUnit.millisecond.nanos, "ms", false), (TimeUnit.microsecond.nanos, "us", false),
    (TimeUnit.nanosecond.nanos, "ns", false)]

def writeTerms : List (Nat × String × Bool) → Nat → List (List Char)
  | [], _ => []
  | (size, name, plural) :: units, n =>
    let count := n / size
    let rest := writeTerms units (n % size)
    if count = 0 then rest
    else
      let suffix := if plural && count > 1 then ['s'] else []
      (Nat.toDigits 10 count ++ name.toList ++ suffix) :: rest

def render (d : Span) : String :=
  if d.nanos = 0 then "0s"
  else String.ofList ([' '].intercalate (writeTerms writtenUnits d.nanos))

end GatewayPlane.Span
