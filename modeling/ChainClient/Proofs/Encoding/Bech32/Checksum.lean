import Mathlib.Algebra.Group.Nat.Defs
import ChainClient.Encoding.Bech32.Checksum

/-!
# The checksum completes a text

A step of the residue is linear: what a string of symbols adds to a residue does not depend on the residue. Six symbols read from zero are just packed, so the six that were cut from the difference between a residue and the constant make up for exactly that difference, and no other six do.

A step also loses nothing, since the low bits of what it feeds back tell which symbol was shifted out. So a text in which one symbol was changed has another residue.
-/

namespace ChainClient.Bech32

/-! ### Linearity -/

private theorem ite_xor (a b : Bool) (k : Residue) :
    (if (a ^^ b) = true then k else 0#30) = (if a = true then k else 0#30) ^^^ (if b = true then k else 0#30) := by
  cases a <;> cases b <;> simp

theorem feedback_xor (x y : BitVec 5) : feedback (x ^^^ y) = feedback x ^^^ feedback y := by
  simp only [feedback, BitVec.getLsbD_xor, ite_xor]
  ac_rfl

theorem shift_xor (x y : Residue) : shift (x ^^^ y) = shift x ^^^ shift y := by
  have hleft : (x ^^^ y) <<< 5 = (x <<< 5) ^^^ (y <<< 5) := BitVec.shiftLeft_xor_distrib _ _ _
  have htop : (x ^^^ y).extractLsb' 25 5 = x.extractLsb' 25 5 ^^^ y.extractLsb' 25 5 := BitVec.extractLsb'_xor
  rw [shift, hleft, htop, feedback_xor, shift, shift]
  ac_rfl

theorem step_xor (x y : Residue) (s : Symbol) : step (x ^^^ y) s = step x (Symbol.ofNat 0) ^^^ step y s := by
  have hzero : BitVec.ofNat 30 (Symbol.ofNat 0).val = 0#30 := rfl
  rw [step, step, step, shift_xor, hzero, BitVec.xor_zero, BitVec.xor_assoc]

/-- What symbols add to a residue is the same for all residues. -/
theorem foldl_step_xor (x y : Residue) (symbols : List Symbol) :
    symbols.foldl step (x ^^^ y) = (List.replicate symbols.length (Symbol.ofNat 0)).foldl step x ^^^ symbols.foldl step y := by
  induction symbols generalizing x y with
  | nil => rfl
  | cons s symbols ih => rw [List.foldl_cons, step_xor, ih]; rfl

/-! ### Six symbols from zero -/

private theorem mul_xor_of_lt (a : Nat) {b : Nat} (h : b < 2 ^ 5) : (2 ^ 5 * a) ^^^ b = 2 ^ 5 * a + b := by
  apply Nat.eq_of_testBit_eq
  intro j
  rw [Nat.testBit_xor, Nat.testBit_two_pow_mul, Nat.testBit_two_pow_mul_add a h]
  by_cases hj : j < 5
  · simp [hj, Nat.not_le.2 hj]
  · have hhigh : b.testBit j = false :=
      Nat.testBit_lt_two_pow (Nat.lt_of_lt_of_le h (Nat.pow_le_pow_right (by decide) (Nat.not_lt.1 hj)))
    simp [hj, hhigh, Nat.not_lt.1 hj]

/-- As long as nothing is shifted out, a step appends a symbol to the residue. -/
theorem toNat_step_of_lt {r : Residue} (h : r.toNat < 2 ^ 25) (s : Symbol) :
    (step r s).toNat = 2 ^ 5 * r.toNat + s.val := by
  have htop : r.extractLsb' 25 5 = 0#5 := by
    apply BitVec.eq_of_toNat_eq
    rw [BitVec.extractLsb'_toNat, Nat.shiftRight_eq_div_pow, Nat.div_eq_of_lt h]
    rfl
  have hfeedback : feedback 0#5 = 0#30 := by decide
  have hs := s.isLt
  rw [step, shift, htop, hfeedback, BitVec.xor_zero, BitVec.toNat_xor, BitVec.toNat_shiftLeft, BitVec.toNat_ofNat,
    Nat.shiftLeft_eq, Nat.mod_eq_of_lt (by omega), Nat.mod_eq_of_lt (by omega), Nat.mul_comm,
    mul_xor_of_lt _ (by omega)]

theorem toNat_foldl_step {r : Residue} {size : Nat} (h : r.toNat < 32 ^ size) {symbols : List Symbol}
    (hlength : size + symbols.length ≤ 6) :
    (symbols.foldl step r).toNat = symbols.foldl (fun value s => 2 ^ 5 * value + s.val) r.toNat := by
  induction symbols generalizing r size with
  | nil => rfl
  | cons s symbols ih =>
    rw [List.length_cons] at hlength
    have hbound : (32 : Nat) ^ size ≤ 32 ^ 5 := Nat.pow_le_pow_right (by decide) (by omega)
    have hstep := toNat_step_of_lt (r := r) (by omega) s
    have hgrown : (step r s).toNat < 32 ^ (size + 1) := by
      have hs := s.isLt
      rw [hstep, Nat.pow_succ]
      omega
    rw [List.foldl_cons, List.foldl_cons, ih hgrown (by omega), hstep]

theorem foldl_step_symbols (r : Residue) : r.symbols.foldl step 0#30 = r := by
  have hsymbol : ∀ i, (Symbol.ofNat (r.extractLsb' i 5).toNat).val = r.toNat / 2 ^ i % 32 := by
    intro i
    rw [BitVec.extractLsb'_toNat, Nat.shiftRight_eq_div_pow]
    exact Nat.mod_mod _ 32
  have hr := r.isLt
  apply BitVec.eq_of_toNat_eq
  have hzero : (0#30).toNat < 32 ^ 0 := by decide
  have hlength : 0 + r.symbols.length ≤ 6 := Nat.le_refl 6
  rw [toNat_foldl_step hzero hlength]
  simp only [Residue.symbols, List.map_cons, List.map_nil, List.foldl_cons, List.foldl_nil, hsymbol,
    BitVec.toNat_ofNat]
  omega

theorem symbols_foldl_step {symbols : List Symbol} (h : symbols.length = 6) : (symbols.foldl step 0#30).symbols = symbols := by
  have hzero : (0#30).toNat < 32 ^ 0 := by decide
  have hpacked : (symbols.foldl step 0#30).toNat = symbols.foldl (fun value s => 2 ^ 5 * value + s.val) (0#30).toNat :=
    toNat_foldl_step hzero (by omega)
  match symbols, h with
  | [a, b, c, d, e, f], _ =>
    simp only [List.foldl_cons, List.foldl_nil, BitVec.toNat_ofNat] at hpacked
    simp only [Residue.symbols, List.map_cons, List.map_nil, List.foldl_cons, List.foldl_nil, List.cons.injEq, and_true,
      Symbol.ofNat, Fin.ext_iff, BitVec.extractLsb'_toNat, Nat.shiftRight_eq_div_pow, hpacked]
    omega

/-! ### The residue of a complete text -/

theorem length_checksum (hrp : List Char) (data : List Symbol) : (checksum hrp data).length = 6 := rfl

/-- What six symbols add to the residue in front of them. -/
theorem residue_append_six (front : List Symbol) {tail : List Symbol} (h : tail.length = 6) :
    residue (front ++ tail) = residue (front ++ List.replicate 6 (Symbol.ofNat 0)) ^^^ tail.foldl step 0#30 := by
  have hlinear := foldl_step_xor (residue front) 0#30 tail
  rw [BitVec.xor_zero, h] at hlinear
  rw [residue, List.foldl_append, residue, List.foldl_append]
  exact hlinear

theorem residue_checksum (hrp : List Char) (data : List Symbol) :
    residue (expand hrp ++ (data ++ checksum hrp data)) = bech32Constant := by
  rw [← List.append_assoc, residue_append_six _ (length_checksum hrp data), checksum, foldl_step_symbols,
    ← BitVec.xor_assoc, BitVec.xor_self, BitVec.zero_xor]

/-- No other six symbols complete a text. -/
theorem eq_checksum_of_residue {hrp : List Char} {data tail : List Symbol} (hlength : tail.length = 6)
    (h : residue (expand hrp ++ (data ++ tail)) = bech32Constant) : tail = checksum hrp data := by
  have hchecksum := residue_checksum hrp data
  rw [← h, ← List.append_assoc, ← List.append_assoc, residue_append_six _ (length_checksum hrp data),
    residue_append_six _ hlength, BitVec.xor_right_inj] at hchecksum
  rw [← symbols_foldl_step hlength, ← hchecksum, symbols_foldl_step (length_checksum hrp data)]

/-! ### A changed symbol -/

private theorem feedback_low : ∀ top : BitVec 5, (feedback top).extractLsb' 0 5 = 0#5 → top = 0#5 := by decide

theorem shift_eq_zero {r : Residue} (h : shift r = 0#30) : r = 0#30 := by
  have hlow : (r <<< 5).extractLsb' 0 5 = 0#5 := by
    apply BitVec.eq_of_toNat_eq
    rw [BitVec.extractLsb'_toNat, BitVec.toNat_shiftLeft, Nat.shiftLeft_eq, Nat.shiftRight_zero, BitVec.toNat_ofNat]
    omega
  have htop : r.extractLsb' 25 5 = 0#5 := by
    refine feedback_low _ ?_
    have hparts := congrArg (BitVec.extractLsb' 0 5) h
    rw [shift, BitVec.extractLsb'_xor, hlow, BitVec.zero_xor] at hparts
    rw [hparts]
    rfl
  have hfeedback : feedback 0#5 = 0#30 := by decide
  rw [shift, htop, hfeedback, BitVec.xor_zero] at h
  have htopNat := congrArg BitVec.toNat htop
  have hshiftNat := congrArg BitVec.toNat h
  rw [BitVec.extractLsb'_toNat, Nat.shiftRight_eq_div_pow] at htopNat
  rw [BitVec.toNat_shiftLeft, Nat.shiftLeft_eq] at hshiftNat
  have hr := r.isLt
  apply BitVec.eq_of_toNat_eq
  simp only [BitVec.toNat_ofNat] at htopNat hshiftNat ⊢
  omega

theorem step_injective (s : Symbol) : Function.Injective (step · s) := by
  intro x y h
  have hshift : shift x = shift y := (BitVec.xor_left_inj _).1 h
  have hzero : shift (x ^^^ y) = 0#30 := by rw [shift_xor, hshift, BitVec.xor_self]
  exact BitVec.xor_eq_zero_iff.1 (shift_eq_zero hzero)

theorem foldl_step_injective (symbols : List Symbol) : Function.Injective (symbols.foldl step) := by
  induction symbols with
  | nil => exact fun _ _ h => h
  | cons s symbols ih => exact fun _ _ h => step_injective s (ih h)

/-- Texts that differ in one symbol only have different residues. -/
theorem eq_of_residue_eq {front after : List Symbol} {s t : Symbol}
    (h : residue (front ++ s :: after) = residue (front ++ t :: after)) : s = t := by
  rw [residue, residue, List.foldl_append, List.foldl_append, List.foldl_cons, List.foldl_cons] at h
  have hstep := foldl_step_injective after h
  have hsymbol := congrArg BitVec.toNat ((BitVec.xor_right_inj _).1 hstep)
  have hs := s.isLt
  have ht := t.isLt
  rw [BitVec.toNat_ofNat, BitVec.toNat_ofNat, Nat.mod_eq_of_lt (by omega), Nat.mod_eq_of_lt (by omega)] at hsymbol
  exact Fin.ext hsymbol

end ChainClient.Bech32
