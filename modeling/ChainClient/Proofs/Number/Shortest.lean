import Mathlib.Algebra.Order.Field.Power
import Mathlib.Algebra.Order.Ring.Rat
import Mathlib.Tactic.Linarith
import Mathlib.Tactic.NormNum
import ChainClient.Proofs.Number.Rounding

/-!
# The shortest decimal rounds to its double

A decimal is accepted on a grid of powers of ten only when it lies between the midpoints around the double, so it determines the double. Once the grid is finer than the doubles are there, the nearest multiple is accepted, and the search comes to such a grid before its fuel ends.
-/

namespace ChainClient.Binary64

/-! ### The parts of a double and its magnitude -/

theorem biased_eq (x : Binary64) : x.biased = x.magnitude / 2 ^ 52 := by
  rw [biased, magnitude]
  omega

theorem fraction_eq (x : Binary64) : x.fraction = x.magnitude % 2 ^ 52 := by
  rw [fraction, magnitude]
  omega

theorem place_magnitude (x : Binary64) : place x.magnitude = 2 ^ (x.exponent + 1074).toNat := by
  rw [place, ← biased_eq, exponent]
  congr 1
  split <;> omega

theorem size_magnitude (x : Binary64) : size x.magnitude = x.mantissa * place x.magnitude := by
  rw [size, place, mantissa, ← biased_eq, ← fraction_eq]
  split
  · rename_i hzero
    rw [hzero, Nat.zero_sub, Nat.pow_zero, Nat.mul_one]
  · rfl

theorem mantissa_mod_two (x : Binary64) : x.mantissa % 2 = x.magnitude % 2 := by
  rw [mantissa, fraction_eq]
  split <;> omega

theorem exponent_ge (x : Binary64) : -1074 ≤ x.exponent := by
  rw [exponent]
  split <;> omega

def unitBits : Nat := 1074

/-- How many of the least positive double make one. -/
def unit : Nat := 2 ^ unitBits

theorem unit_pos : 0 < unit := Nat.two_pow_pos _

/-- The distance between doubles there, in least positive doubles, over the common denominator. -/
theorem place_mul_denominator (x : Binary64) :
    place x.magnitude * x.denominator = unit * 2 ^ x.exponent.toNat := by
  have hge := x.exponent_ge
  have hsum : (x.exponent + 1074).toNat + (-x.exponent).toNat = unitBits + x.exponent.toNat := by
    rw [unitBits]
    omega
  rw [place_magnitude, denominator, unit, ← Nat.pow_add, ← Nat.pow_add, hsum]

theorem denominator_pos (x : Binary64) : 0 < x.denominator := Nat.two_pow_pos _

/-! ### Grids -/

/-- The number that a decimal stands for. -/
def Decimal.value (d : Decimal) : ℚ := d.digits * 10 ^ d.exp10

/-- A number in quarters of the least positive double. -/
def quarters (q : ℚ) : ℚ := 4 * unit * q

/-- The distance between neighbours on a grid, over the common denominator of the comparison. -/
def gridStep (x : Binary64) (exp10 : Int) : Nat := 4 * x.denominator * 10 ^ exp10.toNat

/-- The double itself, over that denominator. -/
def gridValue (x : Binary64) (exp10 : Int) : Nat := 4 * x.numerator * 10 ^ (-exp10).toNat

/-- The distance between doubles there, in quarters, over that denominator. -/
def gridPlace (x : Binary64) (exp10 : Int) : Nat := 2 ^ x.exponent.toNat * 10 ^ (-exp10).toNat

/-- A multiple of the power of ten lies where a decimal is read as the double. -/
def Fits (x : Binary64) (exp10 : Int) (n : Nat) : Prop :=
  let low := x.gridValue exp10 - reach x.magnitude * x.gridPlace exp10
  let high := x.gridValue exp10 + 2 * x.gridPlace exp10
  (low ≤ n * x.gridStep exp10 ∧ n * x.gridStep exp10 ≤ high) ∧
    (x.magnitude % 2 = 1 → low < n * x.gridStep exp10 ∧ n * x.gridStep exp10 < high)

def nearest (x : Binary64) (exp10 : Int) : Nat := roundDiv (x.gridValue exp10) (x.gridStep exp10)

instance (x : Binary64) (exp10 : Int) (n : Nat) : Decidable (x.Fits exp10 n) :=
  inferInstanceAs (Decidable ((_ ≤ _ ∧ _ ≤ _) ∧ (_ → _ < _ ∧ _ < _)))

theorem exists_onGrid?_eq (x : Binary64) (exp10 : Int) : ∃ other,
    x.onGrid? exp10 =
      if x.Fits exp10 (x.nearest exp10) ∧ x.nearest exp10 ≠ 0 then some ⟨x.nearest exp10, exp10⟩
      else if x.Fits exp10 other ∧ other ≠ 0 then some ⟨other, exp10⟩
      else none := by
  have hstep : 4 * x.denominator * 10 ^ (-exp10).toNat * 10 ^ exp10.toNat / 10 ^ (-exp10).toNat = x.gridStep exp10 := by
    rw [Nat.mul_right_comm, Nat.mul_div_cancel _ (Nat.pow_pos (by decide)), gridStep]
  have hreach : (if x.fraction = 0 ∧ x.biased > 1 then x.gridPlace exp10 else 2 * x.gridPlace exp10) =
      reach x.magnitude * x.gridPlace exp10 := by
    rw [reach, fraction_eq, biased_eq]
    split <;> simp
  have hfits : ∀ n, (if x.mantissa % 2 = 0 then
        decide (x.gridValue exp10 - reach x.magnitude * x.gridPlace exp10 ≤ n * x.gridStep exp10 ∧
          n * x.gridStep exp10 ≤ x.gridValue exp10 + 2 * x.gridPlace exp10)
      else decide (x.gridValue exp10 - reach x.magnitude * x.gridPlace exp10 < n * x.gridStep exp10 ∧
          n * x.gridStep exp10 < x.gridValue exp10 + 2 * x.gridPlace exp10)) = decide (x.Fits exp10 n) := by
    intro n
    rw [Bool.eq_iff_iff, decide_eq_true_eq, Fits, mantissa_mod_two]
    split <;> simp only [decide_eq_true_eq] <;> omega
  unfold onGrid?
  simp only [hstep]
  rw [← gridValue, ← gridPlace, hreach]
  simp only [hfits, decide_eq_true_eq]
  exact ⟨_, rfl⟩

theorem fits_of_onGrid? {x : Binary64} {exp10 : Int} {d : Decimal} (h : x.onGrid? exp10 = some d) :
    d.exp10 = exp10 ∧ d.digits ≠ 0 ∧ x.Fits exp10 d.digits := by
  obtain ⟨other, heq⟩ := x.exists_onGrid?_eq exp10
  rw [heq] at h
  split at h
  · rename_i hnearest
    cases h
    exact ⟨rfl, hnearest.2, hnearest.1⟩
  · split at h
    · rename_i hother
      cases h
      exact ⟨rfl, hother.2, hother.1⟩
    · exact absurd h (by simp)

/-! ### Powers of ten among powers of two -/

theorem zpow_mul_pow_toNat {b : ℚ} (hb : b ≠ 0) (k : Int) : b ^ k * b ^ (-k).toNat = b ^ k.toNat := by
  rw [← zpow_natCast, ← zpow_natCast, ← zpow_add₀ hb]
  congr 1
  omega

/-- Where `p / q` is just above the logarithm of ten, a power of ten is bounded by a power of two. -/
theorem ten_zpow_le {p q : Nat} (hlow : 2 ^ q ≤ 10 ^ p) (hhigh : 10 ^ p ≤ 2 ^ (q + 1)) {k e : Int}
    (hk : k * q ≤ p * e) (he : e ≤ q) (hq : 0 < q) : (10 : ℚ) ^ k ≤ 2 ^ (e + 1) := by
  have hlow' : (2 : ℚ) ^ q ≤ 10 ^ p := by exact_mod_cast hlow
  have hhigh' : (10 : ℚ) ^ p ≤ 2 ^ (q + 1) := by exact_mod_cast hhigh
  have hbase : ((10 : ℚ) ^ p) ^ e ≤ 2 ^ ((e + 1) * q) := by
    -- a negative power turns the bounds around, so each of them serves one sign
    rcases le_total 0 e with hpos | hneg
    · calc ((10 : ℚ) ^ p) ^ e ≤ (2 ^ (q + 1)) ^ e := zpow_le_zpow_left₀ hpos (by positivity) hhigh'
        _ = 2 ^ ((q + 1) * e) := by rw [← zpow_natCast, ← zpow_mul]; norm_cast
        _ ≤ 2 ^ ((e + 1) * q) := zpow_le_zpow_right₀ (by norm_num) (by linarith)
    · calc ((10 : ℚ) ^ p) ^ e = (((10 : ℚ) ^ p) ^ (-e))⁻¹ := by rw [zpow_neg, inv_inv]
        _ ≤ (((2 : ℚ) ^ q) ^ (-e))⁻¹ :=
            inv_anti₀ (by positivity) (zpow_le_zpow_left₀ (by omega) (by positivity) hlow')
        _ = 2 ^ (q * e) := by rw [zpow_neg, inv_inv, ← zpow_natCast, ← zpow_mul]
        _ ≤ 2 ^ ((e + 1) * q) := zpow_le_zpow_right₀ (by norm_num) (by linarith)
  have hpow : ((10 : ℚ) ^ k) ^ q ≤ (2 ^ (e + 1)) ^ q :=
    calc ((10 : ℚ) ^ k) ^ q = 10 ^ (k * q) := by rw [zpow_mul, zpow_natCast]
      _ ≤ 10 ^ (p * e) := zpow_le_zpow_right₀ (by norm_num) hk
      _ = (10 ^ p) ^ e := by rw [zpow_mul, zpow_natCast]
      _ ≤ 2 ^ ((e + 1) * q) := hbase
      _ = (2 ^ (e + 1)) ^ q := by rw [zpow_mul, zpow_natCast]
  exact (pow_le_pow_iff_left₀ (by positivity) (by positivity) hq.ne').1 hpow

/-- The power of ten twenty places below the leading digit is finer than the doubles are. -/
theorem two_mul_ten_zpow_lt {k e : Int} (hk : (k + 20) * 100000 ≤ 30103 * (e + 52)) (he : e ≤ 971) :
    2 * (10 : ℚ) ^ k < 2 ^ e := by
  have hlow : 2 ^ 100000 ≤ 10 ^ 30103 := by decide +kernel
  have hhigh : 10 ^ 30103 ≤ 2 ^ (100000 + 1) := by decide +kernel
  have hle : (10 : ℚ) ^ (k + 20) ≤ 2 ^ (e + 52 + 1) :=
    ten_zpow_le hlow hhigh (by exact_mod_cast hk) (by push_cast; omega) (by norm_num)
  rw [zpow_add₀ (by norm_num), add_assoc, zpow_add₀ (by norm_num)] at hle
  norm_num at hle
  have : (0 : ℚ) < 2 ^ e := by positivity
  linarith

/-! ### A decimal that fits rounds to the double -/

theorem gridStep_scaled (x : Binary64) (d : Decimal) :
    quarters d.value * ((x.denominator * 10 ^ (-d.exp10).toNat : Nat) : ℚ) =
      unit * ((d.digits * x.gridStep d.exp10 : Nat) : ℚ) := by
  have hpower := @zpow_mul_pow_toNat 10 (by norm_num) d.exp10
  rw [quarters, Decimal.value, gridStep]
  push_cast
  rw [← hpower]
  ring

theorem boundary_scaled (x : Binary64) (exp10 : Int) :
    boundary x.magnitude * (x.denominator * 10 ^ (-exp10).toNat) =
      unit * (x.gridValue exp10 + 2 * x.gridPlace exp10) := by
  have hplace := x.place_mul_denominator
  rw [boundary, size_magnitude, gridValue, gridPlace, numerator]
  calc (4 * (x.mantissa * place x.magnitude) + 2 * place x.magnitude) * (x.denominator * 10 ^ (-exp10).toNat)
      = (4 * x.mantissa + 2) * 10 ^ (-exp10).toNat * (place x.magnitude * x.denominator) := by ring
    _ = _ := by rw [hplace]; ring

theorem magnitude_pos {x : Binary64} (h : x.mantissa ≠ 0) : 0 < x.magnitude := by
  have hfraction := x.fraction_eq
  have hbiased := x.biased_eq
  rw [mantissa] at h
  split at h <;> omega

theorem boundary_pred_scaled {x : Binary64} (h : x.mantissa ≠ 0) (exp10 : Int) :
    boundary (x.magnitude - 1) * (x.denominator * 10 ^ (-exp10).toNat) =
      unit * (x.gridValue exp10 - reach x.magnitude * x.gridPlace exp10) := by
  have hplace := x.place_mul_denominator
  have hsize := four_mul_size_succ (x.magnitude - 1)
  rw [Nat.sub_add_cancel (magnitude_pos h), size_magnitude] at hsize
  have hboundary : boundary (x.magnitude - 1) = 4 * x.mantissa * place x.magnitude - reach x.magnitude * place x.magnitude := by
    rw [Nat.mul_assoc]
    omega
  rw [hboundary, gridValue, gridPlace, numerator, ← Nat.sub_mul]
  calc (4 * x.mantissa - reach x.magnitude) * place x.magnitude * (x.denominator * 10 ^ (-exp10).toNat)
      = (4 * x.mantissa - reach x.magnitude) * 10 ^ (-exp10).toNat * (place x.magnitude * x.denominator) := by ring
    _ = unit * ((4 * x.mantissa - reach x.magnitude) * (2 ^ x.exponent.toNat * 10 ^ (-exp10).toNat)) := by
        rw [hplace]; ring
    _ = _ := by rw [Nat.sub_mul, Nat.mul_assoc 4, Nat.mul_assoc 4, Nat.mul_assoc x.mantissa]

/-- Two quantities over a common denominator compare as their numerators do. -/
theorem scaled_lt_iff {p q : ℚ} {denominator scale left right : Nat} (hdenominator : 0 < denominator) (hscale : 0 < scale)
    (hp : p * denominator = scale * left) (hq : q * denominator = scale * right) : p < q ↔ left < right := by
  have hdenominator' : (0 : ℚ) < denominator := by exact_mod_cast hdenominator
  have hscale' : (0 : ℚ) < scale := by exact_mod_cast hscale
  rw [← mul_lt_mul_iff_left₀ hdenominator', hp, hq, mul_lt_mul_iff_right₀ hscale', Nat.cast_lt]

theorem roundsTo_of_fits {x : Binary64} (hx : x.mantissa ≠ 0) {d : Decimal} (h : x.Fits d.exp10 d.digits) :
    RoundsTo (quarters d.value) x.magnitude := by
  have hdenominator : 0 < x.denominator * 10 ^ (-d.exp10).toNat :=
    Nat.mul_pos x.denominator_pos (Nat.pow_pos (by decide))
  have hd := x.gridStep_scaled d
  have hlow := congrArg (Nat.cast : Nat → ℚ) (boundary_pred_scaled hx d.exp10)
  have hhigh := congrArg (Nat.cast : Nat → ℚ) (x.boundary_scaled d.exp10)
  rw [Nat.cast_mul, Nat.cast_mul unit] at hlow hhigh
  obtain ⟨⟨hle, hge⟩, htie⟩ := h
  refine ⟨fun _ => not_lt.1 fun hlt => ?_, not_lt.1 fun hlt => ?_, fun hodd => ⟨?_, ?_⟩⟩
  · exact Nat.not_lt.2 hle ((scaled_lt_iff hdenominator unit_pos hd hlow).1 hlt)
  · exact Nat.not_lt.2 hge ((scaled_lt_iff hdenominator unit_pos hhigh hd).1 hlt)
  · exact (scaled_lt_iff hdenominator unit_pos hlow hd).2 (htie hodd).1
  · exact (scaled_lt_iff hdenominator unit_pos hd hhigh).2 (htie hodd).2

/-! ### A fine grid has a decimal that fits -/

theorem roundDiv_bounds (num : Nat) {den : Nat} (h : 0 < den) :
    2 * num ≤ 2 * (roundDiv num den * den) + den ∧ 2 * (roundDiv num den * den) ≤ 2 * num + den := by
  have hdiv := Nat.div_add_mod' num den
  have hmod := Nat.mod_lt num h
  rw [roundDiv]
  split
  · rw [Nat.add_mul, Nat.one_mul]
    omega
  · omega

theorem reach_eq (n : Nat) : reach n = 1 ∨ reach n = 2 := by
  rw [reach]
  split
  · exact .inl rfl
  · exact .inr rfl

theorem gridStep_pos (x : Binary64) (exp10 : Int) : 0 < x.gridStep exp10 :=
  Nat.mul_pos (Nat.mul_pos (by decide) x.denominator_pos) (Nat.pow_pos (by decide))

theorem four_mul_gridPlace_le {x : Binary64} (hx : x.mantissa ≠ 0) (exp10 : Int) :
    4 * x.gridPlace exp10 ≤ x.gridValue exp10 := by
  rw [gridPlace, gridValue, numerator, Nat.mul_assoc 4]
  exact Nat.mul_le_mul_left 4 (Nat.mul_le_mul_right _ (Nat.le_mul_of_pos_left _ (Nat.pos_of_ne_zero hx)))

theorem nearest_fits {x : Binary64} (hx : x.mantissa ≠ 0) {exp10 : Int}
    (hfine : x.gridStep exp10 < 2 * x.gridPlace exp10) : x.Fits exp10 (x.nearest exp10) ∧ x.nearest exp10 ≠ 0 := by
  obtain ⟨hbelow, habove⟩ := roundDiv_bounds (x.gridValue exp10) (x.gridStep_pos exp10)
  have hvalue := four_mul_gridPlace_le hx exp10
  rw [← nearest] at hbelow habove
  refine ⟨?_, fun hzero => ?_⟩
  · rw [Fits]
    rcases reach_eq x.magnitude with hreach | hreach <;> rw [hreach] <;> omega
  · rw [hzero] at hbelow
    omega

/-- The power of ten is less than half the distance between the doubles there. -/
theorem gridStep_lt {x : Binary64} {exp10 : Int} (h : 2 * (10 : ℚ) ^ exp10 < 2 ^ x.exponent) :
    x.gridStep exp10 < 2 * x.gridPlace exp10 := by
  have hten := @zpow_mul_pow_toNat 10 (by norm_num) exp10
  have htwo := @zpow_mul_pow_toNat 2 (by norm_num) x.exponent
  have hscale : (0 : ℚ) < 2 * 2 ^ (-x.exponent).toNat * 10 ^ (-exp10).toNat := by positivity
  have hscaled := mul_lt_mul_of_pos_right h hscale
  have hcast : (x.gridStep exp10 : ℚ) < 2 * x.gridPlace exp10 := by
    rw [gridStep, gridPlace, denominator]
    push_cast
    rw [← hten, ← htwo]
    linarith
  exact_mod_cast hcast

/-! ### The search comes to a fine grid -/

theorem search_fits {x : Binary64} (hx : x.mantissa ≠ 0) {fuel : Nat} {exp10 : Int} {steps : Nat} (hsteps : steps < fuel)
    (hfine : x.gridStep (exp10 - steps) < 2 * x.gridPlace (exp10 - steps)) :
    (x.search fuel exp10).digits ≠ 0 ∧ x.Fits (x.search fuel exp10).exp10 (x.search fuel exp10).digits := by
  induction fuel generalizing exp10 steps with
  | zero => exact absurd hsteps (Nat.not_lt_zero _)
  | succ fuel ih =>
    rw [search]
    -- a coarser grid than the fine one may already have a decimal that fits, and then the search stops there
    cases hgrid : x.onGrid? exp10 with
    | some d =>
      obtain ⟨rfl, hne, hfits⟩ := fits_of_onGrid? hgrid
      exact ⟨hne, hfits⟩
    | none =>
      cases steps with
      | zero =>
        obtain ⟨other, heq⟩ := x.exists_onGrid?_eq exp10
        rw [Nat.cast_zero, Int.sub_zero] at hfine
        rw [heq, if_pos (nearest_fits hx hfine)] at hgrid
        exact absurd hgrid (by simp)
      | succ steps =>
        have hnext : exp10 - ((steps + 1 : Nat) : Int) = exp10 - 1 - steps := by omega
        rw [hnext] at hfine
        exact ih (by omega) hfine

theorem mantissa_lt (x : Binary64) : x.mantissa < 2 ^ 53 := by
  rw [mantissa, fraction]
  split <;> omega

theorem floorLog2_le {x : Binary64} (hx : x.mantissa ≠ 0) :
    floorLog2 x.numerator x.denominator ≤ x.exponent + 52 := by
  have hne : x.numerator ≠ 0 := Nat.mul_ne_zero hx (Nat.two_pow_pos _).ne'
  have hlt : x.numerator < 2 ^ (53 + x.exponent.toNat) := by
    rw [numerator, Nat.pow_add]
    exact Nat.mul_lt_mul_of_pos_right x.mantissa_lt (Nat.two_pow_pos _)
  have hnumerator := (Nat.log2_lt hne).2 hlt
  have hdenominator : Nat.log2 x.denominator = (-x.exponent).toNat := Nat.log2_two_pow
  rw [floorLog2]
  split <;> omega

theorem stripZeros_spec (fuel : Nat) (d : Decimal) :
    (stripZeros fuel d).value = d.value ∧ ((stripZeros fuel d).digits = 0 ↔ d.digits = 0) := by
  induction fuel generalizing d with
  | zero => exact ⟨rfl, .rfl⟩
  | succ fuel ih =>
    rw [stripZeros]
    split
    · rename_i htrailing
      obtain ⟨hvalue, hzero⟩ := ih ⟨d.digits / 10, d.exp10 + 1⟩
      refine ⟨hvalue.trans ?_, hzero.trans ?_⟩
      · have hten : ((d.digits / 10 : Nat) : ℚ) * 10 = d.digits := by
          exact_mod_cast Nat.div_mul_cancel (Nat.dvd_of_mod_eq_zero htrailing.2)
        rw [Decimal.value, Decimal.value, zpow_add_one₀ (by norm_num), ← hten]
        ring
      · dsimp only
        omega
    · exact ⟨rfl, .rfl⟩

theorem mantissa_ne_zero {x : Binary64} (h : x.isZero = false) : x.mantissa ≠ 0 := by
  rw [mantissa]
  split
  · rename_i hbiased
    intro hfraction
    have hzero : x.isZero = true := by
      rw [isZero, hbiased, hfraction]
      rfl
    rw [h] at hzero
    exact Bool.false_ne_true hzero
  · omega

theorem exponent_le {x : Binary64} (h : x.isFinite = true) : x.exponent ≤ 971 := by
  have hlt : x.biased < 2 ^ 11 := Nat.mod_lt _ (by decide)
  have hne : x.biased ≠ 2047 := by simpa [isFinite] using h
  rw [exponent]
  split <;> omega

/-- The decimal of a double that is printed is one that is read as the double. -/
theorem roundsTo_shortest {x : Binary64} (hfinite : x.isFinite = true) (hzero : x.isZero = false) :
    x.shortest.digits ≠ 0 ∧ RoundsTo (quarters x.shortest.value) x.magnitude := by
  have hx := mantissa_ne_zero hzero
  have hlog := floorLog2_le hx
  have hfine : 2 * (10 : ℚ) ^ ((floorLog2 x.numerator x.denominator * 30103).fdiv 100000 + 1 - (21 : Nat)) <
      2 ^ x.exponent := by
    refine two_mul_ten_zpow_lt ?_ (exponent_le hfinite)
    rw [Int.fdiv_eq_ediv_of_nonneg _ (by decide)]
    omega
  have hsearch := @search_fits x hx 22 _ 21 (by decide) (gridStep_lt hfine)
  obtain ⟨hvalue, hdigits⟩ := stripZeros_spec 20
    (x.search 22 ((floorLog2 x.numerator x.denominator * 30103).fdiv 100000 + 1))
  rw [← shortest] at hvalue hdigits
  refine ⟨fun h => hsearch.1 (hdigits.1 h), ?_⟩
  rw [hvalue]
  exact roundsTo_of_fits hx hsearch.2

end ChainClient.Binary64
