import ChainClient.Coin.Basic
import ChainClient.Proofs.Text.Digits
import ChainClient.Proofs.Text.Pieces

/-!
# Amounts read back

An amount is written with exactly eighteen digits after the point, so its reader finds the point where the writer put it and the number of units that the digits denote is the one that was written.
-/

namespace ChainClient

open Text

namespace Decimal

theorem one_pos : 0 < one := by decide

/-! ### Padding -/

theorem length_padLeft {width : Nat} {ds : List Char} (h : ds.length ≤ width) : (padLeft width ds).length = width := by
  rw [padLeft, List.length_append, List.length_replicate]
  omega

theorem all_isDigit_padLeft (width n : Nat) : (padLeft width (digits n)).all Char.isDigit := by
  rw [padLeft, List.all_append, List.all_replicate, all_isDigit_digits]
  simp

theorem digitsValue_padLeft (width n : Nat) : digitsValue (padLeft width (digits n)) = n := by
  rw [padLeft, digitsValue_append, digitsValue_zeros, digitsValue_digits, Nat.zero_mul, Nat.zero_add]

/-! ### The digits after the point -/

def fraction (d : Decimal) : List Char := padLeft places (digits (d.units % one))

theorem length_fraction (d : Decimal) : d.fraction.length = places :=
  length_padLeft (length_digits_le (by decide) (Nat.mod_lt _ one_pos))

theorem digitsValue_chars (d : Decimal) : digitsValue (digits (d.units / one) ++ d.fraction) = d.units := by
  have hsplit := Nat.div_add_mod' d.units one
  rw [digitsValue_append, length_fraction, digitsValue_digits, fraction, digitsValue_padLeft]
  exact hsplit

theorem split?_chars (d : Decimal) : split? d.chars = some (digits (d.units / one), d.fraction) := by
  have hpoint : '.' ∉ digits (d.units / one) := fun hmem => absurd (isDigit_of_mem_digits hmem) (by decide)
  have hcons : ∃ c cs, d.fraction = c :: cs :=
    List.exists_cons_of_length_pos (by rw [length_fraction]; decide)
  obtain ⟨c, cs, hcons⟩ := hcons
  have hchars : d.chars = digits (d.units / one) ++ '.' :: d.fraction := rfl
  rw [split?, hchars, splitOnce_append hpoint, hcons]

@[simp] theorem parse_text (d : Decimal) : parse d.text = .ok d := by
  have hdigits : ((digits (d.units / one)).all Char.isDigit && d.fraction.all Char.isDigit) = true := by
    rw [all_isDigit_digits, fraction, all_isDigit_padLeft, Bool.and_self]
  rw [parse, text, String.toList_ofList, split?_chars]
  simp only [hdigits, Bool.not_true, Bool.false_eq_true, if_false, length_fraction, Nat.lt_irrefl, Nat.sub_self, Nat.pow_zero,
    Nat.mul_one, digitsValue_chars]

theorem text_injective {d e : Decimal} (h : d.text = e.text) : d = e := by
  have hparse := parse_text d
  rw [h, parse_text] at hparse
  exact (Except.ok.inj hparse).symm

end Decimal

end ChainClient
