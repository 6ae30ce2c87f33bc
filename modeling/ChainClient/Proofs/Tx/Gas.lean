import ChainClient.Proofs.Client.Settings
import ChainClient.Tx.Gas

/-!
# The adjusted gas

The adjusted gas is the exact product of gas and adjustment, rounded down and cut off at the largest number of 64 bits and at the maximum. The two short ways, for no gas and for an adjustment by one, lead to the same result as the long one, and an accepted adjustment is positive, so that the sign which the long way drops is never there.
-/

namespace ChainClient

/-! ### The long way -/

theorem wordDigits_zero : wordDigits 0 = [] := by rw [wordDigits, if_pos rfl]

theorem wordDigits_of_pos {n : Nat} (h : 0 < n) : wordDigits n = UInt64.ofNat n :: wordDigits (n / 2 ^ 64) := by
  rw [wordDigits, if_neg h.ne']

/-- No digit is zero, one is a number that fits, and more stand for a number that does not. -/
theorem saturated_eq_min (n : Nat) : (saturated (wordDigits n)).toNat = min n (2 ^ 64 - 1) := by
  rcases Nat.eq_zero_or_pos n with rfl | hpos
  · rw [wordDigits_zero, Nat.zero_min]
    rfl
  rw [wordDigits_of_pos hpos]
  rcases Nat.lt_or_ge n (2 ^ 64) with hfits | hlarge
  · rw [Nat.div_eq_of_lt hfits, wordDigits_zero, saturated, UInt64.toNat_ofNat', Nat.mod_eq_of_lt hfits]
    omega
  · have hrest : 0 < n / 2 ^ 64 := Nat.div_pos hlarge (by decide)
    have htop : (saturated (UInt64.ofNat n :: UInt64.ofNat (n / 2 ^ 64) :: wordDigits (n / 2 ^ 64 / 2 ^ 64))).toNat =
      2 ^ 64 - 1 := rfl
    rw [wordDigits_of_pos hrest, htop]
    omega

/-- The adjusted gas without short ways: the product by its digits, whatever its sign. -/
def adjustedByDigits (adjustment : Binary64) (gas max : UInt64) : Option UInt64 :=
  (adjustment.mulFloor? gas.toNat).map fun product => min (saturated (wordDigits product.natAbs)) max

/-- The product of gas and adjustment, rounded down. -/
def exactGas (adjustment : Binary64) (gas : UInt64) : Int := ⌊(gas.toNat : ℚ) * adjustment.rational⌋

theorem toNat_min (m n : UInt64) : (min m n).toNat = min m.toNat n.toNat := by
  change (if m ≤ n then m else n).toNat = _
  rw [min_def, apply_ite UInt64.toNat]
  rfl

theorem adjustGas_of_isFinite {x : Binary64} (h : x.isFinite) (gas max : UInt64) :
    (adjustGas x gas max).toNat = min (saturated (wordDigits (exactGas x gas).natAbs)).toNat max.toNat := by
  have hgas := gas.toNat_lt
  rw [saturated_eq_min, adjustGas, exactGas]
  by_cases hnone : gas = 0
  · rw [if_pos hnone, hnone]
    simp
  by_cases hone : x = Binary64.one
  · rw [if_neg hnone, if_pos hone, hone, Binary64.rational_one, mul_one, Int.floor_natCast, Int.natAbs_natCast, toNat_min]
    omega
  · rw [if_neg hnone, if_neg hone, Binary64.mulFloor?_of_isFinite h]
    dsimp only
    rw [toNat_min, saturated_eq_min]

/-! ### The exact product -/

variable {x y : Binary64} {gas more max limit : UInt64}

theorem exactGas_nonneg (h : 0 < x.rational) (gas : UInt64) : 0 ≤ exactGas x gas :=
  Int.floor_nonneg.2 (mul_nonneg (Nat.cast_nonneg _) h.le)

theorem exactGas_mono (h : 0 < x.rational) (hfactor : x.rational ≤ y.rational) (hgas : gas ≤ more) :
    exactGas x gas ≤ exactGas y more := by
  have hcast : (gas.toNat : ℚ) ≤ more.toNat := by exact_mod_cast UInt64.le_iff_toNat_le.1 hgas
  exact Int.floor_le_floor (mul_le_mul hcast hfactor h.le (Nat.cast_nonneg _))

theorem le_exactGas (h : 1 ≤ x.rational) (gas : UInt64) : (gas.toNat : ℤ) ≤ exactGas x gas := by
  rw [exactGas, Int.le_floor, Int.cast_natCast]
  exact le_mul_of_one_le_right (Nat.cast_nonneg _) h

theorem adjustGas_eq_min (hfinite : x.isFinite) (hpositive : 0 < x.rational) (gas max : UInt64) :
    ((adjustGas x gas max).toNat : ℤ) = min (min (exactGas x gas) (2 ^ 64 - 1)) max.toNat := by
  have hproduct := exactGas_nonneg hpositive gas
  rw [adjustGas_of_isFinite hfinite, saturated_eq_min]
  omega

/-- **Adjusted gas.** A product with a finite double is the exact product rounded down, and there is none with another double. For every finite adjustment the short ways agree with the long one. An adjustment that settings can have gives the exact product, which is not negative, cut off at `2 ^ 64 - 1` and at the maximum; it gives at least the gas or the maximum if it is at least one, and more for a greater adjustment, more gas or a greater maximum. -/
theorem adjusted_gas_exact :
    (∀ (n : Nat) (x : Binary64), x.isFinite → x.mulFloor? n = some ⌊(n : ℚ) * x.rational⌋) ∧
    (∀ (n : Nat) (x : Binary64), x.isFinite = false → x.mulFloor? n = none) ∧
    (∀ (x : Binary64) (gas max : UInt64), x.isFinite → adjustedByDigits x gas max = some (adjustGas x gas max)) ∧
    (∀ (x : Binary64) (gas max : UInt64), ClientConfig.Adjustable x →
      0 ≤ ⌊(gas.toNat : ℚ) * x.rational⌋ ∧
      ((adjustGas x gas max).toNat : ℤ) = min (min ⌊(gas.toNat : ℚ) * x.rational⌋ (2 ^ 64 - 1)) max.toNat ∧
      (1 ≤ x.rational → min gas max ≤ adjustGas x gas max)) ∧
    ∀ (x y : Binary64) (gas more max limit : UInt64), ClientConfig.Adjustable x → ClientConfig.Adjustable y →
      x.rational ≤ y.rational → gas ≤ more → max ≤ limit → adjustGas x gas max ≤ adjustGas y more limit := by
  refine ⟨fun n x h => Binary64.mulFloor?_of_isFinite h n, fun n x h => Binary64.mulFloor?_eq_none h n, ?shortWays,
    ?exact, ?monotone⟩
  case shortWays =>
    intro x gas max h
    rw [adjustedByDigits, Binary64.mulFloor?_of_isFinite h, Option.map_some, Option.some_inj, ← UInt64.toNat_inj,
      toNat_min, adjustGas_of_isFinite h, exactGas]
  case exact =>
    intro x gas max h
    obtain ⟨hfinite, hpositive⟩ := ClientConfig.adjustable_iff.1 h
    have hvalue := adjustGas_eq_min hfinite hpositive gas max
    refine ⟨exactGas_nonneg hpositive gas, hvalue, fun hone => ?_⟩
    have hproduct := le_exactGas hone gas
    have hgas := gas.toNat_lt
    rw [UInt64.le_iff_toNat_le, toNat_min]
    omega
  case monotone =>
    intro x y gas more max limit hx hy hfactor hgas hmax
    obtain ⟨hfinite, hpositive⟩ := ClientConfig.adjustable_iff.1 hx
    have hleft := adjustGas_eq_min hfinite hpositive gas max
    have hright := adjustGas_eq_min (ClientConfig.adjustable_iff.1 hy).1 (hpositive.trans_le hfactor) more limit
    have hproduct := exactGas_mono hpositive hfactor hgas
    rw [UInt64.le_iff_toNat_le] at hmax ⊢
    omega

/-- Gas at the top of the range, adjusted by one and a half and by two, and a double that is no number. -/
theorem adjusted_gas_exact_top :
    let oneAndHalf : Binary64 := ⟨0x3ff8000000000000⟩
    let two : Binary64 := ⟨0x4000000000000000⟩
    let noNumber : Binary64 := ⟨0x7ff8000000000000⟩
    let top : UInt64 := 0xffffffffffffffff
    oneAndHalf.mulFloor? 3 = some 4 ∧ noNumber.mulFloor? 3 = none ∧
      adjustedByDigits oneAndHalf 0xaaaaaaaaaaaaaaab top = some (adjustGas oneAndHalf 0xaaaaaaaaaaaaaaab top) ∧
      ClientConfig.Adjustable oneAndHalf ∧ ClientConfig.Adjustable two ∧
      ((adjustGas oneAndHalf 0xaaaaaaaaaaaaaaab top).toNat : ℤ) = 2 ^ 64 - 1 ∧
      min 0xaaaaaaaaaaaaaaab top ≤ adjustGas oneAndHalf 0xaaaaaaaaaaaaaaab top ∧
      adjustGas oneAndHalf 0xaaaaaaaaaaaaaaaa 7 ≤ adjustGas two 0xaaaaaaaaaaaaaaab top := by
  intro oneAndHalf two noNumber top
  obtain ⟨hproduct, hnone, hshort, hexact, hmonotone⟩ := adjusted_gas_exact
  have hhalf : oneAndHalf.rational = 3 / 2 := by
    rw [Binary64.rational_of_fields (show _ ∧ oneAndHalf.biased = 1023 ∧ oneAndHalf.fraction = 2 ^ 51 by decide) (by decide)]
    norm_num
  have htwo : two.rational = 2 := by
    rw [Binary64.rational_of_fields (show _ ∧ two.biased = 1024 ∧ two.fraction = 0 by decide) (by decide)]
    norm_num
  have hfinite : oneAndHalf.isFinite := by decide
  have hleft : ClientConfig.Adjustable oneAndHalf := ClientConfig.adjustable_iff.2 ⟨hfinite, by rw [hhalf]; norm_num⟩
  have hright : ClientConfig.Adjustable two := ClientConfig.adjustable_iff.2 ⟨by decide, by rw [htwo]; norm_num⟩
  obtain ⟨-, hvalue, hleast⟩ := hexact oneAndHalf 0xaaaaaaaaaaaaaaab top hleft
  have hgas : (0xaaaaaaaaaaaaaaab : UInt64).toNat = 0xaaaaaaaaaaaaaaab := rfl
  have hfloor : ⌊((0xaaaaaaaaaaaaaaab : UInt64).toNat : ℚ) * oneAndHalf.rational⌋ = 2 ^ 64 := by
    rw [hhalf, hgas, Int.floor_eq_iff]
    norm_num
  rw [hfloor] at hvalue
  refine ⟨?_, hnone 3 noNumber (by decide), hshort oneAndHalf _ top hfinite, hleft, hright, hvalue,
    hleast (by rw [hhalf]; norm_num), hmonotone oneAndHalf two _ _ 7 top hleft hright ?_ (by decide) (by decide)⟩
  · rw [hproduct 3 oneAndHalf hfinite, hhalf]
    norm_num
  · rw [hhalf, htwo]
    norm_num

end ChainClient
