import ChainClient.Bytes

/-!
# Punycode

A label with characters beyond ASCII is written in ASCII: the plain characters come first, and behind the last hyphen stand numbers that say which character is to be inserted where. The insertions come in ascending order of the characters, each number counts the places passed since the one before. A number is written from its least digit on in a base that changes from digit to digit: a digit below the threshold of its place is the last one, and the thresholds follow the size of the numbers before.
-/

namespace ChainClient.Host.Punycode

attribute [local instance (high + 1)] instPowNat

/-- The numbers stay below this. -/
def limit : Nat := 2 ^ (32 : Nat)

/-- The value of a digit, a letter of either case before the decimal digits. -/
def digit? (c : Char) : Option Nat :=
  if 'a' ≤ c ∧ c ≤ 'z' then some (c.toNat - 'a'.toNat)
  else if 'A' ≤ c ∧ c ≤ 'Z' then some (c.toNat - 'A'.toNat)
  else if c.isDigit then some (c.toNat - '0'.toNat + 26)
  else none

/-- The threshold of a place, which is a multiple of 36. -/
def threshold (place bias : Nat) : Nat := max 1 (min 26 (place - bias))

/-- Divides by 35 down to 455 and counts the divisions. A number below `2 ^ 32` takes at most six of them. -/
private def shrink : Nat → Nat → Nat × Nat
  | 0, n => (0, n)
  | bound + 1, n =>
    if 455 < n then
      let (count, rest) := shrink bound (n / 35)
      (count + 1, rest)
    else (0, n)

/-- The bias after an insertion. -/
def adapt (number length : Nat) (isFirst : Bool) : Nat :=
  let scaled := if isFirst then number / 700 else number / 2
  let (count, rest) := shrink 8 (scaled + scaled / length)
  36 * count + 36 * rest / (rest + 38)

/-- Reads one number and adds it to another one. -/
def number? (bias : Nat) : Nat → Nat → Nat → List Char → Option (Nat × List Char)
  | _, _, _, [] => none
  | place, weight, sum, c :: cs => do
    let d ← digit? c
    let sum := sum + d * weight
    let t := threshold place bias
    if limit ≤ sum then none
    else if d < t then some (sum, cs)
    else if limit ≤ weight * (36 - t) then none
    else number? bias (place + 36) (weight * (36 - t)) sum cs

/-- Inserts characters into a label. Every insertion takes a character of the text, so the bound is never met. -/
private def insertAll : Nat → Nat → Nat → Nat → List Char → List Char → Option (List Char)
  | _, _, _, _, label, [] => some label
  | 0, _, _, _, _, _ => none
  | bound + 1, bias, code, position, label, cs => do
    let (sum, rest) ← number? bias 36 1 position cs
    let length := label.length + 1
    let code := code + sum / length
    if code.isValidChar then
      insertAll bound (adapt (sum - position) length (position == 0)) code (sum % length + 1)
        (label.insertIdx (sum % length) (Char.ofNat code)) rest
    else none

/-- The plain characters and the numbers, without the last hyphen between them; a hyphen in front of everything belongs to the numbers. -/
def split (cs : List Char) : List Char × List Char :=
  let behind := (cs.reverse.takeWhile (· != '-')).reverse
  let plain := cs.take (cs.length - behind.length - 1)
  if plain.isEmpty then ([], cs) else (plain, behind)

/-- The label that a text in ASCII stands for. -/
def decode? (cs : List Char) : Option (List Char) :=
  let (plain, numbers) := split cs
  insertAll numbers.length 72 128 0 plain numbers

end ChainClient.Host.Punycode
