/-!
Days and moments of the calendar, from the year 1 to the year 9999. A moment may know its distance
from the time at Greenwich; then it is the same as any other moment at that instant.
-/

namespace SchemaNaming

structure Day where
  year : Nat
  month : Nat
  day : Nat
  deriving DecidableEq, Repr, Inhabited

structure Moment where
  day : Day
  hour : Nat
  minute : Nat
  second : Nat
  microsecond : Nat := 0
  /-- Minutes ahead of Greenwich, when known. -/
  offset : Option Int := none
  deriving DecidableEq, Repr, Inhabited

/-- The last 'width' decimal digits of a number. -/
def paddedDigits (width n : Nat) : String :=
  let digits := Nat.toDigits 10 n
  String.ofList (List.replicate (width - digits.length) '0' ++ digits)

namespace Day

def isLeap (year : Nat) : Bool := year % 4 == 0 && (year % 100 != 0 || year % 400 == 0)

def monthLengths (year : Nat) : List Nat :=
  [31, if isLeap year then 29 else 28, 31, 30, 31, 30, 31, 31, 30, 31, 30, 31]

def isValid (d : Day) : Bool :=
  1 ≤ d.year && d.year ≤ 9999 && 1 ≤ d.month && d.month ≤ 12 && 1 ≤ d.day &&
    d.day ≤ (monthLengths d.year).getD (d.month - 1) 0

def number (d : Day) : Nat :=
  let years := d.year - 1
  365 * years + years / 4 - years / 100 + years / 400 +
    ((monthLengths d.year).take (d.month - 1)).foldl (· + ·) 0 + (d.day - 1)

def isoText (d : Day) : String :=
  paddedDigits 4 d.year ++ "-" ++ paddedDigits 2 d.month ++ "-" ++ paddedDigits 2 d.day

def fields (d : Day) : List Nat := [d.year, d.month, d.day]

end Day

namespace Moment

def isValid (m : Moment) : Bool :=
  m.day.isValid && m.hour < 24 && m.minute < 60 && m.second < 60 && m.microsecond < 1000000 &&
    match m.offset with
    | some offset => offset.natAbs < 24 * 60
    | none => true

/-- Microseconds since the first instant of the year 1, as the clock shows them. -/
def clock (m : Moment) : Int :=
  (((m.day.number * 24 + m.hour) * 60 + m.minute) * 60 + m.second) * 1000000 + m.microsecond

/-- Clocks are compared at Greenwich when both distances are known. -/
def isSame (m n : Moment) : Bool :=
  match m.offset, n.offset with
  | some a, some b => m.clock - a * 60000000 == n.clock - b * 60000000
  | none, none => m.clock == n.clock
  | _, _ => false

def offsetText (offset : Int) : String :=
  (if offset < 0 then "-" else "+") ++ paddedDigits 2 (offset.natAbs / 60) ++ ":" ++
    paddedDigits 2 (offset.natAbs % 60)

def isoText (m : Moment) : String :=
  m.day.isoText ++ " " ++ paddedDigits 2 m.hour ++ ":" ++ paddedDigits 2 m.minute ++ ":" ++
    paddedDigits 2 m.second ++
    (if m.microsecond == 0 then "" else "." ++ paddedDigits 6 m.microsecond) ++
    ((m.offset.map offsetText).getD "")

def fields (m : Moment) : List Nat :=
  m.day.fields ++ [m.hour, m.minute] ++
    if m.microsecond != 0 then [m.second, m.microsecond]
    else if m.second != 0 then [m.second] else []

end Moment

end SchemaNaming
