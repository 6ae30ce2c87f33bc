import ChainClient.Json.Basic

/-!
# JSON numbers

A number without fraction and exponent that fits into 64 bits, signed or unsigned, is an integer; every other number is a double, and so is `-0`. A double is computed from the leading digits that fit into 64 bits and one multiplication or division by a power of ten, digit strings that are longer lose their tail.
-/

namespace ChainClient.Json

attribute [local instance (high + 1)] instPowNat

/-- What a numeral denotes: an integer, a double, or nothing because it is too large. -/
inductive Numeral where
  | int (value : Int)
  | double (value : FiniteDouble)
  | outOfRange

namespace Numeral

private def ofBinary64 (x : Binary64) : Numeral :=
  if h : x.isFinite then double ⟨x, h⟩ else outOfRange

/-- Appends digits to a significand while it fits into 64 bits; the digits from the first one that does not fit are returned. -/
def accumulate (significand : Nat) : List Char → Nat × List Char
  | [] => (significand, [])
  | c :: cs =>
    let next := 10 * significand + (c.toNat - '0'.toNat)
    if next < 2 ^ (64 : Nat) then accumulate next cs else (significand, c :: cs)

private def power (n : Nat) : Binary64 := Binary64.ofNat (10 ^ n)

/-- Multiplies or divides by a power of ten, in steps of `10 ^ 308` when the exponent is below that. -/
private def applyExponent (negative : Bool) : Nat → Binary64 → Int → Numeral
  | 0, _, _ => ofBinary64 (Binary64.zero negative)
  | fuel + 1, x, exponent =>
    let signed (y : Binary64) : Numeral := ofBinary64 (if negative then y.neg else y)
    if exponent.natAbs ≤ 308 then
      if 0 ≤ exponent then signed (x.mul (power exponent.natAbs)) else signed (x.div (power exponent.natAbs))
    else if x.isZero then signed x
    else if 0 ≤ exponent then outOfRange
    else applyExponent negative fuel (x.div (power 308)) (exponent + 308)

private def ofParts (negative : Bool) (significand : Nat) (exponent : Int) : Numeral :=
  applyExponent negative 8 (Binary64.ofNat significand) exponent

/-- The greatest exponent that is kept as a number. -/
private def maxExponent : Nat := 2 ^ (31 : Nat) - 1

private def clampExponent (exponent : Int) : Int := max (-(2 ^ (31 : Nat))) (min exponent (2 ^ (31 : Nat) - 1))

/-- The digits and the sign of a part that starts with `e`. -/
private def exponentDigits? : List Char → Option (Bool × List Char)
  | '+' :: ds => if Text.isNumeral ds then some (false, ds) else none
  | '-' :: ds => if Text.isNumeral ds then some (true, ds) else none
  | ds => if Text.isNumeral ds then some (false, ds) else none

private def finish (negative : Bool) (significand : Nat) (exponent : Int) : List Char → Option Numeral
  | [] => some (ofParts negative significand exponent)
  | c :: cs =>
    if c = 'e' ∨ c = 'E' then
      (exponentDigits? cs).map fun (down, ds) =>
        let size := Text.digitsValue ds
        if maxExponent < size then
          if significand ≠ 0 ∧ !down then outOfRange else ofBinary64 (Binary64.zero negative)
        else ofParts negative significand (clampExponent (if down then exponent - size else exponent + size))
    else none

def unsigned? (negative : Bool) (cs : List Char) : Option Numeral :=
  let whole := cs.takeWhile Char.isDigit
  let rest := cs.dropWhile Char.isDigit
  if whole.isEmpty ∨ (whole.head? = some '0' ∧ 1 < whole.length) then none
  else
    let (significand, dropped) := accumulate 0 whole
    match rest with
    | [] =>
      if !dropped.isEmpty then some (ofParts negative significand dropped.length)
      else if !negative then some (int significand)
      else if significand = 0 ∨ 2 ^ (63 : Nat) < significand then some (ofBinary64 (Binary64.ofNat significand).neg)
      else some (int (-(significand : Int)))
    | '.' :: rest =>
      let part := rest.takeWhile Char.isDigit
      if part.isEmpty then none
      else
        let (significand, lost) := accumulate significand part
        finish negative significand ((dropped.length : Int) - (part.length - lost.length : Nat))
          (rest.dropWhile Char.isDigit)
    | _ => finish negative significand dropped.length rest

/-- Reads a complete numeral; `none` if it is not one. -/
def parse? : List Char → Option Numeral
  | '-' :: cs => unsigned? true cs
  | cs => unsigned? false cs

end Numeral

end ChainClient.Json
