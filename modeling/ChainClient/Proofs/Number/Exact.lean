import Mathlib.Data.Rat.Floor
import ChainClient.Proofs.Number.Shortest

/-!
# Doubles as rational numbers

A finite double stands for one rational number, which its three fields give as IEEE 754 says. The quotient of natural numbers that the arithmetic works with is that number, so the floor of a product is the floor of the exact product, for subnormal and for negative doubles as well.
-/

namespace ChainClient.Binary64

/-- The number that the fields of a finite double give: an exponent field of zero stands for the least exponent and for no hidden bit. -/
def rational (x : Binary64) : ℚ :=
  (if x.negative then -1 else 1) *
    (if x.biased = 0 then (2 : ℚ) ^ (-1022 : ℤ) * (x.fraction / 2 ^ 52)
      else (2 : ℚ) ^ ((x.biased : ℤ) - 1023) * (1 + x.fraction / 2 ^ 52))

/-- The quotient with the sign of the double. -/
def signedNumerator (x : Binary64) : Int := if x.negative then -(x.numerator : Int) else x.numerator

theorem rational_eq_mantissa (x : Binary64) :
    x.rational = (if x.negative then -1 else 1) * (x.mantissa * (2 : ℚ) ^ x.exponent) := by
  have htwo : (2 : ℚ) ≠ 0 := two_ne_zero
  rw [rational, mantissa, exponent]
  congr 1
  by_cases h : x.biased = 0
  · have hsplit : (2 : ℚ) ^ (-1022 : ℤ) = 2 ^ (-1074 : ℤ) * 2 ^ 52 := by
      rw [← zpow_natCast, ← zpow_add₀ htwo]
      norm_num
    rw [if_pos h, if_pos h, if_pos h, hsplit]
    field_simp
  · have hsplit : (2 : ℚ) ^ ((x.biased : ℤ) - 1023) = 2 ^ ((x.biased : ℤ) - 1075) * 2 ^ 52 := by
      rw [← zpow_natCast, ← zpow_add₀ htwo]
      congr 1
      push_cast
      ring
    rw [if_neg h, if_neg h, if_neg h, hsplit]
    push_cast
    field_simp
    ring

theorem rational_eq_div (x : Binary64) : x.rational = (x.signedNumerator : ℚ) / (x.denominator : ℚ) := by
  have hdenominator : (x.denominator : ℚ) ≠ 0 := by exact_mod_cast x.denominator_pos.ne'
  have hpower : (2 : ℚ) ^ x.exponent * x.denominator = 2 ^ x.exponent.toNat := by
    rw [denominator]
    push_cast
    exact zpow_mul_pow_toNat two_ne_zero x.exponent
  rw [eq_div_iff hdenominator, rational_eq_mantissa, signedNumerator, numerator, mul_assoc, mul_assoc, hpower]
  by_cases h : x.negative
  · rw [if_pos h, if_pos h]
    push_cast
    ring
  · rw [if_neg h, if_neg h]
    push_cast
    ring

/-- A product is rounded down from its exact value. -/
theorem mulFloor?_of_isFinite {x : Binary64} (h : x.isFinite) (n : Nat) :
    x.mulFloor? n = some ⌊(n : ℚ) * x.rational⌋ := by
  have hquotient : (n : ℚ) * x.rational = ((n * x.signedNumerator : Int) : ℚ) / (x.denominator : ℚ) := by
    rw [rational_eq_div, mul_div_assoc']
    push_cast
    rfl
  rw [mulFloor?, if_pos h, hquotient, Rat.floor_intCast_div_natCast,
    ← Int.fdiv_eq_ediv_of_nonneg _ (Int.natCast_nonneg _)]
  rfl

theorem mulFloor?_eq_none {x : Binary64} (h : x.isFinite = false) (n : Nat) : x.mulFloor? n = none := by
  rw [mulFloor?, h]
  rfl

/-- A positive double with a hidden bit. -/
theorem rational_of_fields {x : Binary64} {biased fraction : Nat}
    (hfields : x.negative = false ∧ x.biased = biased ∧ x.fraction = fraction) (hnormal : biased ≠ 0) :
    x.rational = 2 ^ ((biased : ℤ) - 1023) * (1 + fraction / 2 ^ 52) := by
  obtain ⟨hsign, rfl, rfl⟩ := hfields
  rw [rational, hsign, if_neg hnormal]
  exact one_mul _

theorem rational_one : one.rational = 1 := by
  rw [rational_of_fields (show _ ∧ one.biased = 1023 ∧ one.fraction = 0 by decide) (by decide)]
  norm_num

/-- A finite double is positive exactly when its number is. -/
theorem isPositive_iff {x : Binary64} (h : x.isFinite) : x.isPositive ↔ 0 < x.rational := by
  have hpower : (0 : ℚ) < 2 ^ x.exponent := zpow_pos two_pos _
  have hzero : x.isZero = true ↔ x.mantissa = 0 := by
    rw [isZero, Bool.and_eq_true, beq_iff_eq, beq_iff_eq, mantissa]
    split <;> omega
  have hnumber : x.isNaN = false := by
    rw [isFinite, bne_iff_ne] at h
    rw [isNaN, beq_false_of_ne h, Bool.false_and]
  rw [isPositive, hnumber, rational_eq_mantissa]
  simp only [Bool.not_false, Bool.and_true, Bool.and_eq_true, Bool.not_eq_true', ← Bool.not_eq_true, hzero]
  by_cases hsign : x.negative
  · refine iff_of_false (fun hboth => hboth.1 hsign) ?_
    rw [if_pos hsign, not_lt]
    have hmagnitude : 0 ≤ (x.mantissa : ℚ) * 2 ^ x.exponent := by positivity
    linarith
  · rw [if_neg hsign, one_mul, mul_pos_iff_of_pos_right hpower, Nat.cast_pos, Nat.pos_iff_ne_zero]
    exact and_iff_right hsign

end ChainClient.Binary64
