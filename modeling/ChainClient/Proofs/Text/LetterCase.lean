import ChainClient.Proofs.Text.Pieces

/-!
# Letter case

Only letters of ASCII have another case. So a statement about a character and its other case is checked on the 128 characters of ASCII, one by one, and beyond them it is about characters that stay as they are.
-/

namespace ChainClient.Text

variable {c : Char}

theorem toLower_of_not_isUpper (h : c.isUpper = false) : c.toLower = c :=
  dif_neg fun hletter => Bool.false_ne_true (h.symm.trans (decide_eq_true hletter))

theorem toUpper_of_not_isLower (h : c.isLower = false) : c.toUpper = c := by
  refine dif_neg fun hletter => Bool.false_ne_true (h.symm.trans ?_)
  exact Bool.and_eq_true_iff.2 ⟨decide_eq_true hletter.1, decide_eq_true hletter.2⟩

/-- A character is one of ASCII, or it has no other case. -/
@[elab_as_elim]
theorem letterCase_induction {p : Char → Prop} (ascii : ∀ code < 128, p (Char.ofNat code))
    (caseless : ∀ c : Char, c.isUpper = false → c.isLower = false → c.toLower = c → c.toUpper = c → p c) (c : Char) :
    p c := by
  by_cases hcode : c.toNat < 128
  · have hc := ascii c.toNat hcode
    rwa [Char.ofNat_toNat] at hc
  · have hupper : c.isUpper = false := by
      refine Bool.eq_false_iff.2 fun h => hcode ?_
      exact Nat.lt_of_le_of_lt (toNat_of_isUpper h).2 (by decide)
    have hlower : c.isLower = false := by
      refine Bool.eq_false_iff.2 fun h => hcode ?_
      exact Nat.lt_of_le_of_lt (toNat_of_isLower h).2 (by decide)
    exact caseless c hupper hlower (toLower_of_not_isUpper hupper) (toUpper_of_not_isLower hlower)

theorem toLower_toLower (c : Char) : c.toLower.toLower = c.toLower := by
  induction c using letterCase_induction with
  | ascii code hcode =>
    revert code
    decide
  | caseless c _ _ hlower _ => rw [hlower, hlower]

theorem toLower_toUpper (c : Char) : c.toUpper.toLower = c.toLower := by
  induction c using letterCase_induction with
  | ascii code hcode =>
    revert code
    decide
  | caseless c _ _ _ hupper => rw [hupper]

theorem toUpper_toLower (c : Char) : c.toLower.toUpper = c.toUpper := by
  induction c using letterCase_induction with
  | ascii code hcode =>
    revert code
    decide
  | caseless c _ _ hlower _ => rw [hlower]

theorem isUpper_toLower (c : Char) : c.toLower.isUpper = false := by
  induction c using letterCase_induction with
  | ascii code hcode =>
    revert code
    decide
  | caseless c hclass _ hlower _ => rw [hlower, hclass]

theorem isLower_toUpper (c : Char) : c.toUpper.isLower = false := by
  induction c using letterCase_induction with
  | ascii code hcode =>
    revert code
    decide
  | caseless c _ hclass _ hupper => rw [hupper, hclass]

end ChainClient.Text
