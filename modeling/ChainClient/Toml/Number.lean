import ChainClient.Text.Number
import ChainClient.Toml.Basic

/-!
# Numbers and dates of a document

Digits may be separated by single underscores. An integer has 64 bits and may be written in base two, eight or sixteen; a double has a point or an exponent, or is `inf` or `nan`. A date has a month of the year and a day up to 31 and a time is one of the clock; they are otherwise not looked at.
-/

namespace ChainClient.Toml

attribute [local instance (high + 1)] instPowNat

/-- The digits at the front, without the underscores between them. -/
private def digitRun (isDigit : Char → Bool) : List Char → List Char × List Char
  | '_' :: c :: cs =>
    if isDigit c then
      let (ds, rest) := digitRun isDigit cs
      (c :: ds, rest)
    else ([], '_' :: c :: cs)
  | c :: cs =>
    if isDigit c then
      let (ds, rest) := digitRun isDigit cs
      (c :: ds, rest)
    else ([], c :: cs)
  | [] => ([], [])

/-- At least one digit; the first character is no underscore. -/
private def digits? (isDigit : Char → Bool) (cs : List Char) : Option (List Char × List Char) :=
  match cs with
  | c :: _ => if isDigit c then some (digitRun isDigit cs) else none
  | [] => none

private def digitValue (c : Char) : Nat := if c.isDigit then c.toNat - 48 else c.toLower.toNat - 87

private def isDigitBelow (base : Nat) (c : Char) : Bool :=
  (c.isDigit || ('a' ≤ c && c ≤ 'f') || ('A' ≤ c && c ≤ 'F')) && digitValue c < base

private def based? (base : Nat) (cs : List Char) : Option (Item × List Char) := do
  let (ds, rest) ← digits? (isDigitBelow base) cs
  let n := ds.foldl (fun n c => base * n + digitValue c) 0
  if n < 2 ^ (63 : Nat) then some (.integer n, rest) else none

/-- The digits in front of the point; a zero stands alone. -/
private def whole? : List Char → Option (List Char × List Char)
  | '0' :: cs => some (['0'], cs)
  | cs => digits? Char.isDigit cs

private def fraction? : List Char → Option (List Char × List Char)
  | '.' :: cs => digits? Char.isDigit cs
  | _ => none

private def exponent? : List Char → Option (Int × List Char)
  | e :: cs =>
    if e = 'e' ∨ e = 'E' then
      match cs with
      | '-' :: cs => (digits? Char.isDigit cs).map fun (ds, rest) => (-(Text.digitsValue ds : Int), rest)
      | '+' :: cs => (digits? Char.isDigit cs).map fun (ds, rest) => ((Text.digitsValue ds : Int), rest)
      | cs => (digits? Char.isDigit cs).map fun (ds, rest) => ((Text.digitsValue ds : Int), rest)
    else none
  | [] => none

/-- A double; one that is too large is refused, but one that is too small is taken as infinite. -/
private def double? (negative : Bool) (ds : List Char) (exponent : Int) : Option Item :=
  let x := Binary64.ofDecimal negative (Text.digitsValue ds) exponent
  if x = Binary64.infinity false then none else some (.double x)

private def decimal? (negative : Bool) (cs : List Char) : Option (Item × List Char) := do
  let (whole, rest) ← whole? cs
  match fraction? rest, exponent? rest with
  | some (places, rest), _ =>
    let (exponent, rest) := (exponent? rest).getD (0, rest)
    return (← double? negative (whole ++ places) (exponent - places.length), rest)
  | none, some (exponent, rest) => return (← double? negative whole exponent, rest)
  | none, none =>
    let n := Text.digitsValue whole
    if negative then (if n ≤ 2 ^ (63 : Nat) then some (.integer (-n), rest) else none)
    else if n < 2 ^ (63 : Nat) then some (.integer n, rest) else none

private def signed? (negative : Bool) : List Char → Option (Item × List Char)
  | 'i' :: 'n' :: 'f' :: cs => some (.double (Binary64.infinity negative), cs)
  | 'n' :: 'a' :: 'n' :: cs => some (.double (Binary64.notANumber negative), cs)
  | cs => decimal? negative cs

def number? : List Char → Option (Item × List Char)
  | '0' :: 'x' :: cs => based? 16 cs
  | '0' :: 'o' :: cs => based? 8 cs
  | '0' :: 'b' :: cs => based? 2 cs
  | '+' :: cs => signed? false cs
  | '-' :: cs => signed? true cs
  | cs => signed? false cs

/-! ## Dates and times -/

/-- What comes after a date. -/
private def afterDate? (cs : List Char) : Option (List Char) := do
  let (_, cs) ← Text.takeNat? 4 cs
  let (month, cs) ← Text.takeNat? 2 (← Text.skip? '-' cs)
  let (day, cs) ← Text.takeNat? 2 (← Text.skip? '-' cs)
  if month = 0 ∨ 12 < month ∨ day = 0 ∨ 31 < day then none else some cs

/-- What comes after a time; a minute may have a leap second. -/
private def afterTime? (cs : List Char) : Option (List Char) := do
  let (hour, cs) ← Text.takeNat? 2 cs
  let (minute, cs) ← Text.takeNat? 2 (← Text.skip? ':' cs)
  let (second, cs) ← Text.takeNat? 2 (← Text.skip? ':' cs)
  if 23 < hour ∨ 59 < minute ∨ 60 < second then none
  match cs with
  | '.' :: rest => if (rest.takeWhile Char.isDigit).isEmpty then none else some (rest.dropWhile Char.isDigit)
  | _ => some cs

/-- What comes after a shift from UTC, if there is one. -/
private def afterOffset (cs : List Char) : List Char :=
  let shift? (cs : List Char) : Option (List Char) := do
    let (hour, cs) ← Text.takeNat? 2 cs
    let (minute, cs) ← Text.takeNat? 2 (← Text.skip? ':' cs)
    if 23 < hour ∨ 59 < minute then none else some cs
  match cs with
  | c :: rest =>
    if c = 'Z' ∨ c = 'z' then rest
    else if c = '+' ∨ c = '-' then (shift? rest).getD cs
    else cs
  | [] => []

/-- A date, a date and a time with or without a shift, or a time. -/
def moment? (cs : List Char) : Option (Item × List Char) :=
  match afterDate? cs with
  | some rest =>
    let timed := match rest with
      | c :: more => if c = 'T' ∨ c = 't' ∨ c = ' ' then (afterTime? more).map afterOffset else none
      | [] => none
    some (.moment, timed.getD rest)
  | none => (afterTime? cs).map fun rest => (.moment, rest)

end ChainClient.Toml
