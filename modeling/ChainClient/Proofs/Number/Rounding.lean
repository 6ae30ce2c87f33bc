import Mathlib.Tactic.Ring
import Mathlib.Order.Monotone.Basic
import Mathlib.Data.Rat.Cast.Order
import ChainClient.Number.Binary64

/-!
# Doubles between boundaries

The magnitudes of the finite doubles, counted by their bits, are cut off from each other by the midpoints between neighbours. A midpoint belongs to the even one of its two neighbours, so no number rounds to two doubles. Everything is measured in quarters of the least positive double, in which midpoints are natural numbers.
-/

namespace ChainClient.Binary64

/-- The bits without the sign: the place of the magnitude among all magnitudes. -/
def magnitude (x : Binary64) : Nat := x.bits.toNat % 2 ^ 63

/-- The distance to the next magnitude, in least positive doubles. -/
def place (n : Nat) : Nat := 2 ^ (n / 2 ^ 52 - 1)

/-- The size of a magnitude, in least positive doubles. -/
def size (n : Nat) : Nat := if n / 2 ^ 52 = 0 then n % 2 ^ 52 else (n % 2 ^ 52 + 2 ^ 52) * place n

/-- The midpoint between a magnitude and the next one, in quarters. -/
def boundary (n : Nat) : Nat := 4 * size n + 2 * place n

/-- How far the midpoint below a magnitude is, in quarters of the distance to the next one: below a power of two the doubles lie closer. -/
def reach (n : Nat) : Nat := if n % 2 ^ 52 = 0 ∧ 1 < n / 2 ^ 52 then 1 else 2

theorem place_pos (n : Nat) : 0 < place n := Nat.two_pow_pos _

/-- The next magnitude either belongs to the same power of two or starts the next one. -/
theorem succ_cases (n : Nat) :
    ((n + 1) / 2 ^ 52 = n / 2 ^ 52 ∧ (n + 1) % 2 ^ 52 = n % 2 ^ 52 + 1) ∨
    ((n + 1) / 2 ^ 52 = n / 2 ^ 52 + 1 ∧ (n + 1) % 2 ^ 52 = 0 ∧ n % 2 ^ 52 = 2 ^ 52 - 1) := by
  omega

theorem four_mul_size_succ (n : Nat) : 4 * size (n + 1) = boundary n + reach (n + 1) * place (n + 1) := by
  rcases succ_cases n with ⟨hdiv, hmod⟩ | ⟨hdiv, hmod, hlast⟩
  · have hplace : place (n + 1) = place n := by rw [place, hdiv, place]
    have hreach : reach (n + 1) = 2 := if_neg (by rw [hmod]; omega)
    rw [hreach, boundary, size, size, hdiv, hmod, hplace]
    split
    · rename_i hzero
      have hone : place n = 1 := by rw [place, hzero, Nat.zero_sub, pow_zero]
      rw [hone]
      omega
    · ring
  · rw [boundary, size, size, hmod, hlast, hdiv, if_neg (Nat.succ_ne_zero _)]
    by_cases hzero : n / 2 ^ 52 = 0
    · have hplace : place (n + 1) = 1 := by rw [place, hdiv, hzero, Nat.add_sub_cancel, pow_zero]
      have hone : place n = 1 := by rw [place, hzero, Nat.zero_sub, pow_zero]
      have hreach : reach (n + 1) = 2 := if_neg (by rw [hdiv, hzero]; omega)
      rw [if_pos hzero, hplace, hone, hreach]
      omega
    · have hplace : place (n + 1) = 2 * place n := by
        rw [place, place, hdiv, ← Nat.pow_succ']
        congr 1
        omega
      have hreach : reach (n + 1) = 1 := if_pos ⟨hmod, by omega⟩
      rw [if_neg hzero, hplace, hreach]
      omega

theorem boundary_lt_succ (n : Nat) : boundary n < boundary (n + 1) := by
  have hsize := four_mul_size_succ n
  have hplace := place_pos (n + 1)
  have hsucc : boundary (n + 1) = 4 * size (n + 1) + 2 * place (n + 1) := rfl
  omega

theorem boundary_strictMono : StrictMono boundary := strictMono_nat_of_lt_succ boundary_lt_succ

/-- A number, in quarters, that rounds to a magnitude: between the midpoints around it, or on one of them if the magnitude is even. -/
structure RoundsTo (q : ℚ) (n : Nat) : Prop where
  low : n ≠ 0 → boundary (n - 1) ≤ q
  high : q ≤ boundary n
  tie : n % 2 = 1 → boundary (n - 1) < q ∧ q < boundary n

theorem RoundsTo.not_lt {q : ℚ} {m n : Nat} (hm : RoundsTo q m) (hn : RoundsTo q n) : ¬ m < n := by
  intro hlt
  have hle : boundary m ≤ boundary (n - 1) := boundary_strictMono.monotone (by omega)
  have hcast : (boundary m : ℚ) ≤ boundary (n - 1) := by exact_mod_cast hle
  -- the number lies on the one midpoint between the two, and of two neighbours one is odd
  have heq : boundary m = boundary (n - 1) := by
    have := (hn.low (by omega)).trans hm.high
    exact_mod_cast le_antisymm hcast this
  have hnext : m = n - 1 := boundary_strictMono.injective heq
  rcases Nat.mod_two_eq_zero_or_one m with hparity | hparity
  · have := (hn.tie (by omega)).1
    exact absurd (hm.high.trans hcast) (not_le.mpr this)
  · have := (hm.tie hparity).2
    exact absurd (hcast.trans (hn.low (by omega))) (not_le.mpr this)

theorem RoundsTo.unique {q : ℚ} {m n : Nat} (hm : RoundsTo q m) (hn : RoundsTo q n) : m = n :=
  Nat.le_antisymm (Nat.le_of_not_lt (hn.not_lt hm)) (Nat.le_of_not_lt (hm.not_lt hn))

end ChainClient.Binary64
