import ChainClient.Text.Number

/-!
# Doubles as exact numbers

A double is its 64 bits. A finite one stands for an integer times a power of two, and everything here is computed from that exact value: products rounded to the nearest double, the floor of a product with an integer, and the shortest decimal that reads back.
-/

namespace ChainClient

attribute [local instance (high + 1)] instPowNat

/-- A number in the IEEE 754 format of 64 bits. -/
structure Binary64 where
  bits : UInt64
  deriving DecidableEq, Repr

namespace Binary64

def negative (x : Binary64) : Bool := x.bits.toNat / 2 ^ (63 : Nat) = 1

def biased (x : Binary64) : Nat := x.bits.toNat / 2 ^ (52 : Nat) % 2 ^ (11 : Nat)

def fraction (x : Binary64) : Nat := x.bits.toNat % 2 ^ (52 : Nat)

def isFinite (x : Binary64) : Bool := x.biased != 2047

def isNaN (x : Binary64) : Bool := x.biased == 2047 && x.fraction != 0

def isZero (x : Binary64) : Bool := x.biased == 0 && x.fraction == 0

/-- The magnitude of a finite double is `mantissa * 2 ^ exponent`. -/
def mantissa (x : Binary64) : Nat := if x.biased = 0 then x.fraction else x.fraction + 2 ^ (52 : Nat)

def exponent (x : Binary64) : Int := if x.biased = 0 then -1074 else (x.biased : Int) - 1075

/-- The magnitude as a quotient of natural numbers. -/
def numerator (x : Binary64) : Nat := x.mantissa * 2 ^ x.exponent.toNat

def denominator (x : Binary64) : Nat := 2 ^ (-x.exponent).toNat

private def withSign (negative : Bool) (magnitude : Nat) : Binary64 :=
  ⟨UInt64.ofNat (if negative then 2 ^ (63 : Nat) + magnitude else magnitude)⟩

def infinity (negative : Bool) : Binary64 := withSign negative (2047 * 2 ^ (52 : Nat))

def zero (negative : Bool) : Binary64 := withSign negative 0

def one : Binary64 := ⟨0x3ff0000000000000⟩

def notANumber (negative : Bool) : Binary64 := withSign negative (2047 * 2 ^ (52 : Nat) + 2 ^ (51 : Nat))

/-- The quotient of two natural numbers rounded to the nearest integer, a half to the even one. -/
def roundDiv (num den : Nat) : Nat :=
  let q := num / den
  let r := num % den
  if 2 * r > den ∨ (2 * r = den ∧ q % 2 = 1) then q + 1 else q

/-- The power of two at which a quotient of positive numbers starts. -/
def floorLog2 (num den : Nat) : Int :=
  let guess : Int := (Nat.log2 num : Int) - Nat.log2 den
  if num * 2 ^ (-guess).toNat ≥ den * 2 ^ guess.toNat then guess else guess - 1

/-- The double nearest to a quotient, a half to the even mantissa; too large a quotient is infinite. -/
def ofRatio (negative : Bool) (num den : Nat) : Binary64 :=
  if num = 0 ∨ den = 0 then zero negative
  else
    let e : Int := max (-1074) (floorLog2 num den - 52)
    let m := roundDiv (num * 2 ^ (-e).toNat) (den * 2 ^ e.toNat)
    let magnitude := (e + 1074).toNat * 2 ^ (52 : Nat) + m
    if magnitude < 2047 * 2 ^ (52 : Nat) then withSign negative magnitude else infinity negative

def ofNat (n : Nat) : Binary64 := ofRatio false n 1

/-- The double nearest to `digits * 10 ^ exp10`. -/
def ofDecimal (negative : Bool) (digits : Nat) (exp10 : Int) : Binary64 :=
  let size : Int := (Text.digits digits).length
  if digits = 0 ∨ size + exp10 < -330 then zero negative
  else if size + exp10 > 310 then infinity negative
  else ofRatio negative (digits * 10 ^ exp10.toNat) (10 ^ (-exp10).toNat)

def neg (x : Binary64) : Binary64 := withSign (!x.negative) (x.bits.toNat % 2 ^ (63 : Nat))

def mul (x y : Binary64) : Binary64 :=
  ofRatio (x.negative != y.negative) (x.numerator * y.numerator) (x.denominator * y.denominator)

def div (x y : Binary64) : Binary64 :=
  ofRatio (x.negative != y.negative) (x.numerator * y.denominator) (x.denominator * y.numerator)

/-- The largest integer that is at most `n` times a finite double. -/
def mulFloor? (n : Nat) (x : Binary64) : Option Int :=
  if x.isFinite then
    let num : Int := if x.negative then -(x.numerator : Int) else x.numerator
    some ((n * num).fdiv x.denominator)
  else none

/-- Greater than zero; false for what is not a number. -/
def isPositive (x : Binary64) : Bool := !x.negative && !x.isZero && !x.isNaN

/-- A decimal `digits * 10 ^ exp10`. -/
structure Decimal where
  digits : Nat
  exp10 : Int

/-- Among the multiples of `10 ^ exp10`, the one nearest to a positive double, if it rounds to that double; the even multiple wins a tie. -/
def onGrid? (x : Binary64) (exp10 : Int) : Option Decimal :=
  -- everything is scaled to quarters of the last place of the double, over a common denominator
  let unit := 4 * x.denominator * 10 ^ (-exp10).toNat
  let scaled (n : Nat) : Nat := n * 10 ^ (-exp10).toNat
  let value := scaled (4 * x.numerator)
  let place := scaled (2 ^ x.exponent.toNat)
  let stepSize := unit * 10 ^ exp10.toNat / 10 ^ (-exp10).toNat
  let narrow := x.fraction = 0 ∧ x.biased > 1
  let low := value - (if narrow then place else 2 * place)
  let high := value + 2 * place
  let even := x.mantissa % 2 = 0
  let fits (n : Nat) : Bool :=
    let p := n * stepSize
    if even then low ≤ p ∧ p ≤ high else low < p ∧ p < high
  let down := value / stepSize
  let nearest := roundDiv value stepSize
  let other := if nearest = down then down + 1 else down
  if fits nearest ∧ nearest ≠ 0 then some ⟨nearest, exp10⟩
  else if fits other ∧ other ≠ 0 then some ⟨other, exp10⟩
  else none

/-- The coarsest grid with a decimal that reads back, from the power of ten of the leading digit downwards. -/
def search (x : Binary64) : Nat → Int → Decimal
  | 0, exp10 => ⟨0, exp10⟩
  | fuel + 1, exp10 => (onGrid? x exp10).getD (search x fuel (exp10 - 1))

def stripZeros : Nat → Decimal → Decimal
  | 0, d => d
  | fuel + 1, d =>
    if d.digits ≠ 0 ∧ d.digits % 10 = 0 then stripZeros fuel ⟨d.digits / 10, d.exp10 + 1⟩ else d

/-- The decimal with the fewest digits that reads back as a positive finite double, the nearest one of those. -/
def shortest (x : Binary64) : Decimal :=
  let lead : Int := (floorLog2 x.numerator x.denominator * 30103).fdiv 100000 + 1
  stripZeros 20 (search x 22 lead)

/-- Digits with a point in front of the last `places`, and zeros filled in where there are none. -/
def positional (ds : List Char) (exp10 : Int) : List Char × List Char :=
  match exp10 with
  | .ofNat n => (ds ++ List.replicate n '0', [])
  | .negSucc n =>
    let places := n + 1
    let ds := List.replicate (places + 1 - ds.length) '0' ++ ds
    (ds.take (ds.length - places), ds.drop (ds.length - places))

/-- Plain text: the shortest digits, never an exponent, no point after an integer. -/
def plain (x : Binary64) : String :=
  let sign := if x.negative then "-" else ""
  if x.isNaN then "NaN"
  else if !x.isFinite then sign ++ "inf"
  else if x.isZero then sign ++ "0"
  else
    let d := x.shortest
    let (whole, part) := positional (Text.digits d.digits) d.exp10
    sign ++ String.ofList (if part.isEmpty then whole else whole ++ '.' :: part)

end Binary64

structure FiniteDouble where
  value : Binary64
  finite : value.isFinite = true
  deriving DecidableEq, Repr

namespace FiniteDouble

/-- The magnitudes from `10 ^ -5` to `10 ^ 16` are written with a point, the others with an exponent. -/
def magnitudeText (d : Binary64.Decimal) : List Char :=
  let ds := Text.digits d.digits
  let top : Int := ds.length + d.exp10
  if -5 < top ∧ top ≤ 16 then
    let (whole, part) := Binary64.positional ds d.exp10
    whole ++ '.' :: (if part.isEmpty then ['0'] else part)
  else
    match ds with
    | [] => []
    | [c] => c :: 'e' :: Text.integer (top - 1)
    | c :: rest => c :: '.' :: rest ++ 'e' :: Text.integer (top - 1)

/-- The fewest digits that read back, always with a point or an exponent, so that no double reads back as an integer. -/
def text (x : FiniteDouble) : List Char :=
  let magnitude := if x.value.isZero then "0.0".toList else magnitudeText x.value.shortest
  if x.value.negative then '-' :: magnitude else magnitude

end FiniteDouble

end ChainClient
