import Mathlib.Tactic.Convert
import ChainClient.Proofs.Coin.Decimal
import ChainClient.Proofs.Number.Shortest

/-!
# Printed doubles read back

The text of a double denotes a decimal that rounds to it, whether it is written with an exponent or with all its zeros, so two doubles with one text are one double. It consists of the characters of numbers and always shows a point or an exponent, so it is not the text of an integer.
-/

namespace ChainClient

open Text

/-- The integer that digits after an optional minus sign denote. -/
def Text.integerValue : List Char → Int
  | '-' :: ds => -(digitsValue ds : Int)
  | ds => digitsValue ds

theorem Text.integerValue_integer (n : Int) : integerValue (integer n) = n := by
  cases n with
  | ofNat n =>
    unfold integerValue
    split
    · rename_i rest heq
      exact absurd heq (digits_ne_cons (by decide) rest)
    · rw [integer, digitsValue_digits]
      rfl
  | negSucc n =>
    rw [integer, integerValue, digitsValue_digits]
    rfl

namespace FiniteDouble

open Binary64

/-- The number that a text denotes: digits with a point somewhere, times a power of ten if there is an exponent. -/
def decimalValue (cs : List Char) : ℚ :=
  let (significand, exponent) := (splitOnce 'e' cs).getD (cs, ['0'])
  let (whole, part) := (splitOnce '.' significand).getD (significand, [])
  digitsValue (whole ++ part) * 10 ^ (integerValue exponent - part.length)

theorem notMem_digits {c : Char} (hc : c.isDigit = false) {ds : List Char} (h : ds.all Char.isDigit) : c ∉ ds :=
  fun hmem => absurd (List.all_eq_true.1 h c hmem) (by simp [hc])

theorem exponent_notMem {whole part : List Char} (hwhole : whole.all Char.isDigit) (hpart : part.all Char.isDigit) :
    'e' ∉ whole ++ '.' :: part := by
  rw [List.mem_append, List.mem_cons]
  rintro (hmem | heq | hmem)
  · exact notMem_digits (by decide) hwhole hmem
  · exact absurd heq (by decide)
  · exact notMem_digits (by decide) hpart hmem

theorem decimalValue_point {whole part : List Char} (hwhole : whole.all Char.isDigit) (hpart : part.all Char.isDigit) :
    decimalValue (whole ++ '.' :: part) = digitsValue (whole ++ part) * 10 ^ (-(part.length : Int)) := by
  rw [decimalValue, splitOnce_eq_none (exponent_notMem hwhole hpart)]
  dsimp only [Option.getD_none]
  rw [splitOnce_append (notMem_digits (by decide) hwhole)]
  dsimp only [Option.getD_some]
  rw [show integerValue ['0'] = 0 from rfl, Int.zero_sub]

theorem decimalValue_exponent {significand whole part : List Char} (n : Int) (hexponent : 'e' ∉ significand)
    (hsplit : (splitOnce '.' significand).getD (significand, []) = (whole, part)) :
    decimalValue (significand ++ 'e' :: integer n) = digitsValue (whole ++ part) * 10 ^ (n - part.length) := by
  rw [decimalValue, splitOnce_append hexponent]
  dsimp only [Option.getD_some]
  rw [hsplit, integerValue_integer]

/-! ### The forms of a text -/

/-- The text of a number in one of its three forms: with a point only, with an exponent behind one digit, with both. -/
inductive Printed : ℚ → List Char → Prop where
  | point {whole part : List Char} (hne : whole ≠ []) (hwhole : whole.all Char.isDigit) (hpart : part.all Char.isDigit) :
      Printed (digitsValue (whole ++ part) * 10 ^ (-(part.length : Int))) (whole ++ '.' :: part)
  | digit {c : Char} (hc : c.isDigit) (n : Int) : Printed (digitsValue [c] * 10 ^ n) (c :: 'e' :: integer n)
  | both {c : Char} {rest : List Char} (hc : c.isDigit) (hrest : rest.all Char.isDigit) (n : Int) :
      Printed (digitsValue (c :: rest) * 10 ^ (n - rest.length)) (c :: '.' :: rest ++ 'e' :: integer n)

theorem Printed.value {q : ℚ} {cs : List Char} (h : Printed q cs) : decimalValue cs = q := by
  cases h with
  | point _ hwhole hpart => exact decimalValue_point hwhole hpart
  | @digit c hc n =>
    have hdigit : [c].all Char.isDigit := by simpa using hc
    have hsplit : (splitOnce '.' [c]).getD ([c], []) = ([c], []) := by
      rw [splitOnce_eq_none (notMem_digits (by decide) hdigit), Option.getD_none]
    have hvalue := decimalValue_exponent n (notMem_digits (by decide) hdigit) hsplit
    rwa [List.length_nil, Nat.cast_zero, Int.sub_zero, List.append_nil] at hvalue
  | @both c rest hc hrest n =>
    have hdigit : [c].all Char.isDigit := by simpa using hc
    have hsplit : (splitOnce '.' ([c] ++ '.' :: rest)).getD ([c] ++ '.' :: rest, []) = ([c], rest) := by
      rw [splitOnce_append (notMem_digits (by decide) hdigit), Option.getD_some]
    exact decimalValue_exponent n (exponent_notMem hdigit hrest) hsplit

theorem all_isDigit_zeros (count : Nat) : (List.replicate count '0').all Char.isDigit := by
  rw [List.all_replicate]
  simp

theorem printed_point_negSucc (n m : Nat) :
    (positional (digits n) (.negSucc m)).2 ≠ [] ∧
      Printed (n * 10 ^ (Int.negSucc m))
        ((positional (digits n) (.negSucc m)).1 ++ '.' :: (positional (digits n) (.negSucc m)).2) := by
  dsimp only [positional]
  generalize hds : List.replicate (m + 1 + 1 - (digits n).length) '0' ++ digits n = ds
  have hlength : m + 2 ≤ ds.length := by
    rw [← hds, List.length_append, List.length_replicate]
    omega
  have hall : ds.all Char.isDigit := by
    rw [← hds, List.all_append, all_isDigit_zeros, all_isDigit_digits]
    rfl
  have hvalue : digitsValue ds = n := by
    rw [← hds, digitsValue_append, digitsValue_zeros, digitsValue_digits, Nat.zero_mul, Nat.zero_add]
  have hpart : (ds.drop (ds.length - (m + 1))).length = m + 1 := by
    rw [List.length_drop]
    omega
  have hne : ds.take (ds.length - (m + 1)) ≠ [] := by
    rw [← List.length_pos_iff, List.length_take]
    omega
  have hsplit := ds.take_append_drop (ds.length - (m + 1))
  rw [← hsplit, List.all_append, Bool.and_eq_true] at hall
  have hprinted := Printed.point hne hall.1 hall.2
  rw [hsplit, hvalue, hpart] at hprinted
  exact ⟨List.ne_nil_of_length_pos (by omega), hprinted⟩

theorem printed_point_ofNat (n zeros : Nat) :
    Printed (n * 10 ^ (Int.ofNat zeros)) (digits n ++ List.replicate zeros '0' ++ ['.', '0']) := by
  have hall : (digits n ++ List.replicate zeros '0').all Char.isDigit := by
    rw [List.all_append, all_isDigit_digits, all_isDigit_zeros]
    rfl
  have hvalue : digitsValue (digits n ++ List.replicate zeros '0' ++ ['0']) = n * 10 ^ zeros * 10 := by
    rw [digitsValue_append, digitsValue_append, digitsValue_zeros, digitsValue_digits, List.length_replicate]
    rfl
  have hprinted := @Printed.point _ ['0'] (by simp [digits_ne_nil]) hall rfl
  rw [hvalue] at hprinted
  convert hprinted using 1
  push_cast
  rw [show Int.ofNat zeros = (zeros : Int) from rfl, zpow_natCast, List.length_singleton]
  norm_num
  ring

theorem printed_magnitudeText (d : Binary64.Decimal) : Printed d.value (magnitudeText d) := by
  obtain ⟨n, exp10⟩ := d
  rw [magnitudeText, Binary64.Decimal.value]
  dsimp only
  split
  · cases exp10 with
    | ofNat zeros => exact printed_point_ofNat n zeros
    | negSucc m =>
      obtain ⟨hne, hprinted⟩ := printed_point_negSucc n m
      rwa [if_neg (mt List.isEmpty_iff.1 hne)]
  · have hall := all_isDigit_digits n
    have hvalue := digitsValue_digits n
    cases hds : digits n with
    | nil => exact absurd hds (digits_ne_nil n)
    | cons c rest =>
      rw [hds, List.all_cons, Bool.and_eq_true] at hall
      rw [hds] at hvalue
      cases rest with
      | nil =>
        have htop : (([c].length : Int) + exp10) - 1 = exp10 := by
          rw [List.length_singleton]
          omega
        dsimp only
        rw [htop, ← hvalue]
        exact .digit hall.1 exp10
      | cons next rest =>
        have hexp10 : exp10 = ((c :: next :: rest).length : Int) + exp10 - 1 - (next :: rest).length := by
          rw [List.length_cons]
          omega
        dsimp only
        rw [← hvalue]
        conv => arg 1; rw [hexp10]
        exact .both hall.1 hall.2 _

theorem printed_zero : Printed 0 ['0', '.', '0'] := by
  have hprinted := @Printed.point ['0'] ['0'] (by decide) rfl rfl
  rwa [show digitsValue (['0'] ++ ['0']) = 0 from rfl, Nat.cast_zero, zero_mul] at hprinted

/-! ### What the forms have in common -/

/-- A digit, a sign, a point or the mark of an exponent. -/
def IsNumberChar (c : Char) : Prop := c.isDigit ∨ c = '-' ∨ c = '.' ∨ c = 'e'

instance (c : Char) : Decidable (IsNumberChar c) := inferInstanceAs (Decidable (_ ∨ _))

theorem isNumberChar_of_mem_integer {n : Int} {c : Char} (h : c ∈ integer n) : IsNumberChar c :=
  (isDigit_or_minus_of_mem_integer h).imp_right .inl

theorem Printed.isNumberChar {q : ℚ} {cs : List Char} (h : Printed q cs) {c : Char} (hc : c ∈ cs) : IsNumberChar c := by
  have hdigits : ∀ {ds : List Char}, ds.all Char.isDigit → c ∈ ds → IsNumberChar c :=
    fun hall hmem => .inl (List.all_eq_true.1 hall c hmem)
  cases h with
  | point _ hwhole hpart =>
    rw [List.mem_append, List.mem_cons] at hc
    rcases hc with hmem | rfl | hmem
    · exact hdigits hwhole hmem
    · exact .inr (.inr (.inl rfl))
    · exact hdigits hpart hmem
  | digit hdigit n =>
    rcases List.mem_cons.1 hc with rfl | hmem
    · exact .inl hdigit
    · rcases List.mem_cons.1 hmem with rfl | hmem
      · exact .inr (.inr (.inr rfl))
      · exact isNumberChar_of_mem_integer hmem
  | both hdigit hrest n =>
    rw [List.mem_append, List.mem_cons, List.mem_cons, List.mem_cons] at hc
    rcases hc with (rfl | rfl | hmem) | rfl | hmem
    · exact .inl hdigit
    · exact .inr (.inr (.inl rfl))
    · exact hdigits hrest hmem
    · exact .inr (.inr (.inr rfl))
    · exact isNumberChar_of_mem_integer hmem

theorem Printed.starts_with_digit {q : ℚ} {cs : List Char} (h : Printed q cs) : ∃ c rest, cs = c :: rest ∧ c.isDigit := by
  cases h with
  | @point whole part hne hwhole _ =>
    obtain ⟨c, rest, rfl⟩ := List.exists_cons_of_ne_nil hne
    rw [List.all_cons, Bool.and_eq_true] at hwhole
    exact ⟨c, _, rfl, hwhole.1⟩
  | digit hdigit n => exact ⟨_, _, rfl, hdigit⟩
  | both hdigit _ n => exact ⟨_, _, rfl, hdigit⟩

/-- A point or an exponent shows that the number is no integer. -/
theorem Printed.mark_mem {q : ℚ} {cs : List Char} (h : Printed q cs) : '.' ∈ cs ∨ 'e' ∈ cs := by
  cases h with
  | point => exact .inl (by simp)
  | digit => exact .inr (by simp)
  | both => exact .inl (by simp)

/-! ### The text of a double -/

def unsigned (x : FiniteDouble) : List Char :=
  if x.value.isZero then ['0', '.', '0'] else magnitudeText x.value.shortest

theorem text_eq (x : FiniteDouble) : x.text = if x.value.negative then '-' :: x.unsigned else x.unsigned := rfl

theorem printed_unsigned (x : FiniteDouble) :
    ∃ q, Printed q x.unsigned ∧ RoundsTo (quarters q) x.value.magnitude := by
  rw [unsigned]
  cases hzero : x.value.isZero with
  | true =>
    have hmagnitude : x.value.magnitude = 0 := by
      have hbiased := x.value.biased_eq
      have hfraction := x.value.fraction_eq
      simp only [isZero, Bool.and_eq_true, beq_iff_eq] at hzero
      omega
    refine ⟨0, printed_zero, ?_⟩
    rw [hmagnitude, quarters, mul_zero]
    exact ⟨fun h => absurd rfl h, Nat.cast_nonneg _, fun hodd => absurd hodd (by decide)⟩
  | false => exact ⟨_, printed_magnitudeText _, (roundsTo_shortest x.finite hzero).2⟩

theorem unsigned_ne_minus (x : FiniteDouble) (rest : List Char) : x.unsigned ≠ '-' :: rest := by
  obtain ⟨q, hprinted, _⟩ := x.printed_unsigned
  obtain ⟨c, tail, heq, hdigit⟩ := hprinted.starts_with_digit
  intro h
  rw [h, List.cons.injEq] at heq
  rw [← heq.1] at hdigit
  exact absurd hdigit (by decide)

theorem magnitude_eq_of_unsigned {x y : FiniteDouble} (h : x.unsigned = y.unsigned) :
    x.value.magnitude = y.value.magnitude := by
  obtain ⟨p, hp, hx⟩ := x.printed_unsigned
  obtain ⟨q, hq, hy⟩ := y.printed_unsigned
  have hvalue : p = q := by rw [← hp.value, h, hq.value]
  rw [hvalue] at hx
  exact hx.unique hy

theorem eq_of_parts {x y : Binary64} (hsign : x.negative = y.negative) (hmagnitude : x.magnitude = y.magnitude) : x = y := by
  obtain ⟨a⟩ := x
  obtain ⟨b⟩ := y
  rw [Binary64.mk.injEq, ← UInt64.toNat_inj]
  have ha := a.toNat_lt
  have hb := b.toNat_lt
  simp only [negative, magnitude, decide_eq_decide] at hsign hmagnitude
  omega

/-- No two doubles have the same text. -/
theorem text_injective {x y : FiniteDouble} (h : x.text = y.text) : x = y := by
  have hparts : x.value.negative = y.value.negative ∧ x.unsigned = y.unsigned := by
    rw [text_eq, text_eq] at h
    cases hx : x.value.negative <;> cases hy : y.value.negative <;>
      simp only [hx, hy, if_true, if_false, Bool.false_eq_true] at h
    · exact ⟨rfl, h⟩
    · exact absurd h (x.unsigned_ne_minus _)
    · exact absurd h.symm (y.unsigned_ne_minus _)
    · exact ⟨rfl, (List.cons.inj h).2⟩
  have hvalue := eq_of_parts hparts.1 (magnitude_eq_of_unsigned hparts.2)
  cases x
  cases y
  cases hvalue
  rfl

theorem isNumberChar_of_mem_text {x : FiniteDouble} {c : Char} (h : c ∈ x.text) : IsNumberChar c := by
  obtain ⟨q, hprinted, _⟩ := x.printed_unsigned
  rw [text_eq] at h
  split at h
  · rcases List.mem_cons.1 h with rfl | hmem
    · exact .inr (.inl rfl)
    · exact hprinted.isNumberChar hmem
  · exact hprinted.isNumberChar h

theorem exists_text_eq_cons (x : FiniteDouble) : ∃ c rest, x.text = c :: rest ∧ (c.isDigit ∨ c = '-') := by
  obtain ⟨q, hprinted, _⟩ := x.printed_unsigned
  obtain ⟨c, rest, heq, hdigit⟩ := hprinted.starts_with_digit
  rw [text_eq]
  split
  · exact ⟨'-', _, rfl, .inr rfl⟩
  · exact ⟨c, rest, heq, .inl hdigit⟩

/-- No double is printed as an integer. -/
theorem text_ne_integer (x : FiniteDouble) (n : Int) : x.text ≠ integer n := by
  obtain ⟨q, hprinted, _⟩ := x.printed_unsigned
  have hmark : '.' ∈ x.text ∨ 'e' ∈ x.text := by
    rw [text_eq]
    split
    · exact hprinted.mark_mem.imp (List.mem_cons_of_mem _) (List.mem_cons_of_mem _)
    · exact hprinted.mark_mem
  intro h
  rw [h] at hmark
  rcases hmark with hmem | hmem
  · exact absurd (isDigit_or_minus_of_mem_integer hmem) (by decide)
  · exact absurd (isDigit_or_minus_of_mem_integer hmem) (by decide)

end FiniteDouble

end ChainClient
