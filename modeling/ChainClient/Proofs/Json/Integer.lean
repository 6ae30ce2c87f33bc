import Mathlib.Data.List.TakeWhile
import ChainClient.Json.Number
import ChainClient.Proofs.Text.Digits

/-!
# Printed integers as numerals

The text of an integer of 64 bits, signed or unsigned, is a numeral that denotes this integer and no double.
-/

namespace ChainClient.Json.Numeral

open Text

theorem accumulate_eq {significand : Nat} {cs : List Char}
    (h : cs.foldl (fun value c => 10 * value + (c.toNat - '0'.toNat)) significand < 2 ^ 64) :
    accumulate significand cs =
      (cs.foldl (fun value c => 10 * value + (c.toNat - '0'.toNat)) significand, []) := by
  have hgrow : ∀ (cs : List Char) (start : Nat),
      start ≤ cs.foldl (fun value c => 10 * value + (c.toNat - '0'.toNat)) start := by
    intro cs
    induction cs with
    | nil => exact fun start => Nat.le_refl start
    | cons c cs ih => exact fun start => Nat.le_trans (by dsimp only; omega) (ih _)
  induction cs generalizing significand with
  | nil => rfl
  | cons c cs ih =>
    have hnext := Nat.lt_of_le_of_lt (hgrow cs _) h
    rw [accumulate]
    simp only [hnext, if_true]
    exact ih h

theorem accumulate_digits {n : Nat} (h : n < 2 ^ 64) : accumulate 0 (digits n) = (n, []) := by
  have hvalue : (digits n).foldl (fun value c => 10 * value + (c.toNat - '0'.toNat)) 0 = n := digitsValue_digits n
  rw [accumulate_eq (by rwa [hvalue]), hvalue]

theorem takeWhile_digits (n : Nat) : (digits n).takeWhile Char.isDigit = digits n :=
  List.takeWhile_eq_self_iff.2 fun _ => isDigit_of_mem_digits

theorem dropWhile_digits (n : Nat) : (digits n).dropWhile Char.isDigit = [] :=
  List.dropWhile_eq_nil_iff.2 fun _ => isDigit_of_mem_digits

theorem not_leading_zero (n : Nat) : ¬ ((digits n).isEmpty ∨ ((digits n).head? = some '0' ∧ 1 < (digits n).length)) := by
  rintro (hempty | ⟨hhead, hlength⟩)
  · exact digits_ne_nil n (List.isEmpty_iff.1 hempty)
  · rcases Nat.eq_zero_or_pos n with rfl | hpos
    · exact absurd hlength (by decide)
    · exact head?_digits_ne_zero hpos hhead

theorem unsigned?_digits {n : Nat} (h : n < 2 ^ 64) : unsigned? false (digits n) = some (int n) := by
  simp only [unsigned?, takeWhile_digits, dropWhile_digits, accumulate_digits h, if_neg (not_leading_zero n)]
  rfl

theorem unsigned?_neg_digits {n : Nat} (hpos : 0 < n) (h : n ≤ 2 ^ 63) : unsigned? true (digits n) = some (int (-n)) := by
  have hzero : ¬ (n = 0 ∨ 2 ^ 63 < n) := by omega
  simp only [unsigned?, takeWhile_digits, dropWhile_digits, accumulate_digits (n := n) (by omega),
    if_neg (not_leading_zero n), List.isEmpty_nil, Bool.not_true, Bool.false_eq_true, if_false, if_neg hzero]

theorem parse?_integer {n : Int} (hlow : -(2 ^ 63) ≤ n) (hhigh : n < 2 ^ 64) : parse? (integer n) = some (int n) := by
  cases n with
  | ofNat n =>
    have hn : n < 2 ^ 64 := by
      have : (n : Int) < 2 ^ 64 := hhigh
      omega
    unfold parse?
    split
    · rename_i rest heq
      exact absurd heq (digits_ne_cons (by decide) rest)
    · exact unsigned?_digits hn
  | negSucc n =>
    have hn : n + 1 ≤ 2 ^ 63 := by omega
    exact unsigned?_neg_digits n.succ_pos hn

end ChainClient.Json.Numeral
