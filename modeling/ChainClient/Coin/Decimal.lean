import ChainClient.Text.Blank
import ChainClient.ValueError

/-!
# Decimal amounts

An amount is a natural number of units of `10 ^ -18`. It is written as its integer part, a point and exactly eighteen digits; the reader takes up to eighteen digits after the point, any number before it, and needs at least one digit in all.
-/

namespace ChainClient

attribute [local instance (high + 1)] instPowNat

/-- A non-negative decimal with eighteen places. -/
structure Decimal where
  units : Nat
  deriving DecidableEq, Repr

namespace Decimal

def places : Nat := 18

def one : Nat := 10 ^ places

def zero : Decimal := ⟨0⟩

def ofUInt64 (n : UInt64) : Decimal := ⟨n.toNat * one⟩

def isZero (d : Decimal) : Bool := d.units == 0

def isPositive (d : Decimal) : Bool := 0 < d.units

def scale (d : Decimal) (n : UInt64) : Decimal := ⟨d.units * n.toNat⟩

def add (d e : Decimal) : Decimal := ⟨d.units + e.units⟩

/-- Digits with zeros in front, up to a width. -/
def padLeft (width : Nat) (ds : List Char) : List Char := List.replicate (width - ds.length) '0' ++ ds

def chars (d : Decimal) : List Char :=
  Text.digits (d.units / one) ++ '.' :: padLeft places (Text.digits (d.units % one))

def text (d : Decimal) : String := String.ofList d.chars

/-- The digits before and after the point; after a point there must be some. -/
def split? (cs : List Char) : Option (List Char × List Char) :=
  match Text.splitOnce '.' cs with
  | some (_, []) => none
  | some (whole, part) => some (whole, part)
  | none => if cs.isEmpty then none else some (cs, [])

def parse (text : String) : Except ValueError Decimal :=
  match split? text.toList with
  | none => .error (.invalidDecimal text)
  | some (whole, part) =>
    if !(whole.all Char.isDigit && part.all Char.isDigit) then .error (.invalidDecimal text)
    else if places < part.length then .error (.decimalPrecision text)
    else .ok ⟨Text.digitsValue (whole ++ part) * 10 ^ (places - part.length)⟩

end Decimal

end ChainClient
