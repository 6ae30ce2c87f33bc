import ChainClient.Text.Number

/-!
# Points in time

A point in time is counted in seconds and nanoseconds from the start of the year zero, so the shift of a local time into UTC is a subtraction. Its text is that of RFC 3339 in UTC, with as many digits of the second as are needed.
-/

namespace ChainClient

structure Timestamp where
  seconds : Nat
  nanos : Nat
  deriving DecidableEq, Repr

namespace Timestamp

def isLeap (year : Nat) : Bool := year % 4 == 0 && (year % 100 != 0 || year % 400 == 0)

def daysInMonth (year month : Nat) : Nat :=
  if month = 2 then (if isLeap year then 29 else 28)
  else if month = 4 ∨ month = 6 ∨ month = 9 ∨ month = 11 then 30
  else 31

/-- The days from the start of the year zero, which is a leap year, to the start of a year. -/
def daysBeforeYear (year : Nat) : Nat := 365 * year + (year + 3) / 4 - (year + 99) / 100 + (year + 399) / 400

/-- The days of a year in front of a month. -/
def daysBeforeMonth (year month : Nat) : Nat :=
  ((List.range (month - 1)).map fun m => daysInMonth year (m + 1)).foldl (· + ·) 0

/-- The seconds up to a time of a day of the calendar. -/
def civilSeconds (year month day hour minute second : Nat) : Nat :=
  (daysBeforeYear year + daysBeforeMonth year month + (day - 1)) * 86400 + hour * 3600 + minute * 60 + second

/-- How many of the numbers from 1 to `bound` start at or before so many days. -/
private def latest (bound days : Nat) (start : Nat → Nat) : Nat :=
  ((List.range bound).filter fun k => start (k + 1) ≤ days).length

/-- Year, month and day, from the days since the start of the year zero. A year has at most 366 days, which bounds the year from below; over ten thousand years the bound is less than 24 years short. -/
def civilDate (days : Nat) : Nat × Nat × Nat :=
  let least := days / 366
  let year := least + latest 24 days fun k => daysBeforeYear (least + k)
  let rest := days - daysBeforeYear year
  let month := latest 12 rest fun m => daysBeforeMonth year m
  (year, month, rest - daysBeforeMonth year month + 1)

/-! ## Reading -/

/-- The nanoseconds after a point; further digits are dropped. -/
private def fraction? : List Char → Option (Nat × List Char)
  | '.' :: cs =>
    let ds := cs.takeWhile Char.isDigit
    if ds.isEmpty then none
    else some (Text.digitsValue ((ds ++ List.replicate 9 '0').take 9), cs.dropWhile Char.isDigit)
  | cs => some (0, cs)

/-- How many minutes a local time is ahead of UTC. -/
private def offset? : List Char → Option Int
  | ['Z'] => some 0
  | sign :: cs => do
    if sign ≠ '+' ∧ sign ≠ '-' then none
    let (hours, cs) ← Text.takeNat? 2 cs
    let (minutes, rest) ← Text.takeNat? 2 (← Text.skip? ':' cs)
    if 23 < hours ∨ 59 < minutes ∨ !rest.isEmpty then none
    let ahead : Int := hours * 60 + minutes
    return if sign = '-' then -ahead else ahead
  | [] => none

def date? (cs : List Char) : Option ((Nat × Nat × Nat) × List Char) := do
  let (year, cs) ← Text.takeNat? 4 cs
  let (month, cs) ← Text.takeNat? 2 (← Text.skip? '-' cs)
  let (day, cs) ← Text.takeNat? 2 (← Text.skip? '-' cs)
  if month = 0 ∨ 12 < month ∨ day = 0 ∨ daysInMonth year month < day then none
  return ((year, month, day), cs)

/-- A day and a time of the day, as if it were in UTC. -/
def civil? (cs : List Char) : Option (Timestamp × List Char) := do
  let ((year, month, day), cs) ← date? cs
  let (hour, cs) ← Text.takeNat? 2 (← Text.skip? 'T' cs)
  let (minute, cs) ← Text.takeNat? 2 (← Text.skip? ':' cs)
  let (second, cs) ← Text.takeNat? 2 (← Text.skip? ':' cs)
  if 23 < hour ∨ 59 < minute ∨ 59 < second then none
  let (nanos, cs) ← fraction? cs
  return (⟨civilSeconds year month day hour minute second, nanos⟩, cs)

/-- A local time with its shift from UTC, in the years from one to 9999. -/
def parseChars? (cs : List Char) : Option Timestamp := do
  let (t, cs) ← civil? cs
  let seconds := (t.seconds : Int) - 60 * (← offset? cs)
  if seconds < daysBeforeYear 1 * 86400 ∨ daysBeforeYear 10000 * 86400 ≤ seconds then none
  return ⟨seconds.toNat, t.nanos⟩

def parse? (text : String) : Option Timestamp := parseChars? text.toList

/-! ## Writing -/

/-- A number with zeros in front up to so many digits. -/
private def padded (width n : Nat) : List Char :=
  let ds := Text.digits n
  List.replicate (width - ds.length) '0' ++ ds

def dateChars (year month day : Nat) : List Char := padded 4 year ++ '-' :: padded 2 month ++ '-' :: padded 2 day

/-- The digits of the second without zeros at their end. -/
private def fractionChars (nanos : Nat) : List Char :=
  if nanos = 0 then [] else '.' :: ((padded 9 nanos).reverse.dropWhile (· == '0')).reverse

def text (t : Timestamp) : String :=
  let (year, month, day) := civilDate (t.seconds / 86400)
  let second := t.seconds % 86400
  String.ofList (dateChars year month day ++ 'T' :: padded 2 (second / 3600) ++ ':' :: padded 2 (second / 60 % 60) ++
    ':' :: padded 2 (second % 60) ++ fractionChars t.nanos ++ ['Z'])

end Timestamp

end ChainClient
