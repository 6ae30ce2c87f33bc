import Mathlib.Algebra.Order.Ring.Rat
import Mathlib.Tactic.FieldSimp
import Mathlib.Tactic.Positivity
import ChainClient.Proofs.Coin.Decimal
import ChainClient.Proofs.Outcome

/-!
# Amounts as numbers

The notation of an amount is digits, or any digits, a point and one to eighteen digits, and it denotes a rational number by the places of its digits. The reader accepts this notation and nothing else, and the units it returns are the denoted number in units, without any rounding. The operations on amounts follow the arithmetic of the integers and never leave the non-negative ones, and what is written for an amount is its one notation with eighteen places and no superfluous zero in front.
-/

namespace ChainClient

namespace Decimal

open Text

/-- Digits, or any digits, a point and one to eighteen digits, with the number that they denote. -/
inductive Denotes : List Char → ℚ → Prop
  | whole {ds : List Char} (hfilled : ds ≠ []) (hdigits : ∀ c ∈ ds, c.isDigit) : Denotes ds (placeValue ds)
  | point {whole part : List Char} (hwhole : ∀ c ∈ whole, c.isDigit) (hpart : ∀ c ∈ part, c.isDigit)
      (hfilled : part ≠ []) (hplaces : part.length ≤ 18) :
      Denotes (whole ++ '.' :: part) (placeValue whole + placeValue part / 10 ^ part.length)

/-! ### Reading -/

/-- The cut at the point, where there is one. -/
theorem split?_eq_some_iff {cs whole part : List Char} (hwhole : ∀ c ∈ whole, c.isDigit) :
    split? cs = some (whole, part) ↔
      (cs = whole ∧ part = [] ∧ whole ≠ []) ∨ (cs = whole ++ '.' :: part ∧ part ≠ []) := by
  have hpoint : '.' ∉ whole := fun hmem => absurd (hwhole '.' hmem) (by decide)
  constructor
  · intro h
    unfold split? at h
    split at h
    · cases h
    · rename_i hafter hfound
      cases h
      exact .inr ⟨splitOnce_eq_some hfound, hafter⟩
    · split at h
      · cases h
      · rename_i hfilled
        cases h
        exact .inl ⟨rfl, rfl, fun hnil => hfilled (List.isEmpty_iff.2 hnil)⟩
  · rintro (⟨rfl, rfl, hfilled⟩ | ⟨rfl, hfilled⟩)
    · rw [split?, splitOnce_eq_none hpoint]
      exact if_neg (by simpa using hfilled)
    · obtain ⟨c, cs, rfl⟩ := List.exists_cons_of_ne_nil hfilled
      rw [split?, splitOnce_append hpoint]

theorem parse_eq_ok_iff {text : String} {d : Decimal} : parse text = .ok d ↔
    ∃ whole part, (∀ c ∈ whole, c.isDigit) ∧ (∀ c ∈ part, c.isDigit) ∧ split? text.toList = some (whole, part) ∧
      part.length ≤ places ∧ d.units = digitsValue (whole ++ part) * 10 ^ (places - part.length) := by
  rw [parse]
  cases hsplit : split? text.toList with
  | none => simp
  | some parts =>
    obtain ⟨whole, part⟩ := parts
    dsimp only
    rw [guard_eq_ok, guard_eq_ok, Bool.not_eq_true', Bool.not_eq_false, Bool.and_eq_true, List.all_eq_true,
      List.all_eq_true, Nat.not_lt, Except.ok.injEq]
    constructor
    · rintro ⟨⟨hwhole, hpart⟩, hplaces, rfl⟩
      exact ⟨whole, part, hwhole, hpart, rfl, hplaces, rfl⟩
    · rintro ⟨_, _, hwhole, hpart, heq, hplaces, hunits⟩
      cases heq
      exact ⟨⟨hwhole, hpart⟩, hplaces, by rw [← hunits]⟩

/-- The units that are read are the denoted number in units. -/
theorem units_eq_placeValue (whole : List Char) {part : List Char} (hplaces : part.length ≤ places) :
    ((digitsValue (whole ++ part) * 10 ^ (places - part.length) : Nat) : ℚ) =
      (placeValue whole + placeValue part / 10 ^ part.length) * 10 ^ 18 := by
  have hpower : (10 : ℚ) ^ 18 = 10 ^ part.length * 10 ^ (places - part.length) := by
    rw [← pow_add, Nat.add_sub_cancel' hplaces, places]
  rw [digitsValue_append, digitsValue_eq_placeValue, digitsValue_eq_placeValue, hpower]
  push_cast
  field_simp

/-- What is accepted is a notation of its value. -/
theorem denotes_of_parse {text : String} {d : Decimal} (h : parse text = .ok d) :
    ∃ number, Denotes text.toList number ∧ (d.units : ℚ) = number * 10 ^ 18 := by
  obtain ⟨whole, part, hwhole, hpart, hsplit, hplaces, hunits⟩ := parse_eq_ok_iff.1 h
  have hvalue := units_eq_placeValue whole hplaces
  rw [← hunits] at hvalue
  rcases (split?_eq_some_iff hwhole).1 hsplit with ⟨htext, rfl, hfilled⟩ | ⟨htext, hfilled⟩
  · rw [htext]
    refine ⟨_, .whole hfilled hwhole, ?_⟩
    rw [hvalue]
    simp [placeValue]
  · rw [htext]
    exact ⟨_, .point hwhole hpart hfilled hplaces, hvalue⟩

/-- Every notation is accepted, with its value. -/
theorem parse_of_denotes {text : String} {number : ℚ} (h : Denotes text.toList number) :
    ∃ d, parse text = .ok d ∧ (d.units : ℚ) = number * 10 ^ 18 := by
  generalize hcs : text.toList = cs at h
  cases h with
  | whole hfilled hdigits =>
    have hsplit := (split?_eq_some_iff hdigits).2 (.inl ⟨hcs, rfl, hfilled⟩)
    refine ⟨⟨_⟩, parse_eq_ok_iff.2 ⟨cs, [], hdigits, by simp, hsplit, Nat.zero_le _, rfl⟩, ?_⟩
    rw [units_eq_placeValue _ (Nat.zero_le _)]
    simp [placeValue]
  | point hwhole hpart hfilled hplaces =>
    have hsplit := (split?_eq_some_iff hwhole).2 (.inr ⟨hcs, hfilled⟩)
    exact ⟨⟨_⟩, parse_eq_ok_iff.2 ⟨_, _, hwhole, hpart, hsplit, hplaces, rfl⟩, units_eq_placeValue _ hplaces⟩

theorem units_of_denotes {text : String} {d : Decimal} {number : ℚ} (h : parse text = .ok d)
    (hnumber : Denotes text.toList number) : (d.units : ℚ) = number * 10 ^ 18 := by
  obtain ⟨found, hfound, hunits⟩ := parse_of_denotes hnumber
  cases hfound.symm.trans h
  exact hunits

/-- Amounts are told apart by the numbers that their notations denote. -/
theorem eq_iff_of_denotes {left right : String} {d e : Decimal} {p q : ℚ} (hleft : parse left = .ok d)
    (hright : parse right = .ok e) (hp : Denotes left.toList p) (hq : Denotes right.toList q) : d = e ↔ p = q := by
  have hd := units_of_denotes hleft hp
  have he := units_of_denotes hright hq
  have hone : (10 : ℚ) ^ 18 ≠ 0 := by positivity
  constructor
  · rintro rfl
    exact mul_right_cancel₀ hone (hd.symm.trans he)
  · rintro rfl
    have hunits : d.units = e.units := Nat.cast_injective (hd.trans he.symm)
    cases d
    cases e
    exact congrArg mk hunits

/-! ### Writing -/

/-- The digits around the point of an amount of so many units: no superfluous zero in front, and eighteen places. -/
structure Written (units : ℤ) (whole part : List Char) : Prop where
  whole_digits : ∀ c ∈ whole, c.isDigit
  part_digits : ∀ c ∈ part, c.isDigit
  filled : whole ≠ []
  leading : whole.head? = some '0' → whole = ['0']
  places : part.length = 18
  whole_value : (placeValue whole : ℤ) = units / 10 ^ 18
  part_value : (placeValue part : ℤ) = units % 10 ^ 18

theorem written_chars (d : Decimal) :
    ∃ whole part, d.text.toList = whole ++ '.' :: part ∧ Written d.units whole part := by
  have hleading : (digits (d.units / one)).head? = some '0' → digits (d.units / one) = ['0'] := by
    intro h
    rcases Nat.eq_zero_or_pos (d.units / one) with hzero | hpos
    · rw [hzero]
      rfl
    · exact absurd h (head?_digits_ne_zero hpos)
  refine ⟨digits (d.units / one), d.fraction, String.toList_ofList, ?_⟩
  constructor
  case whole_digits => exact fun c => isDigit_of_mem_digits
  case part_digits => exact List.all_eq_true.1 (all_isDigit_padLeft places (d.units % one))
  case filled => exact digits_ne_nil _
  case leading => exact hleading
  case places => exact d.length_fraction
  case whole_value =>
    rw [← digitsValue_eq_placeValue, digitsValue_digits]
    rfl
  case part_value =>
    rw [← digitsValue_eq_placeValue, fraction, digitsValue_padLeft]
    rfl

/-! ### Computing -/

/-- An amount that the operations make, and the units that the arithmetic of the integers gives for it. -/
inductive Computed : ℤ → Decimal → Prop
  | zero : Computed 0 zero
  | ofUInt64 (n : UInt64) : Computed (n.toNat * 10 ^ 18) (ofUInt64 n)
  | parse {text : String} {d : Decimal} {number : ℚ} {units : ℤ} (hread : parse text = .ok d)
      (hnumber : Denotes text.toList number) (hunits : (units : ℚ) = number * 10 ^ 18) : Computed units d
  | scale {units : ℤ} {d : Decimal} (h : Computed units d) (n : UInt64) : Computed (units * n.toNat) (d.scale n)
  | add {units more : ℤ} {d e : Decimal} (hd : Computed units d) (he : Computed more e) :
      Computed (units + more) (d.add e)

/-- No combination of operations leaves the non-negative numbers. -/
theorem Computed.units_eq {units : ℤ} {d : Decimal} (h : Computed units d) : (d.units : ℤ) = units := by
  induction h with
  | zero => rfl
  | ofUInt64 n => rfl
  | parse hread hnumber hunits =>
    have hvalue := (units_of_denotes hread hnumber).trans hunits.symm
    exact_mod_cast hvalue
  | scale h n ih =>
    rw [← ih]
    rfl
  | add hd he ihd ihe =>
    rw [← ihd, ← ihe]
    rfl

/-- **Exact amounts.** A text is accepted exactly when it is a notation, and its value is the number denoted. Every amount that the operations make has the units of integer arithmetic, which are never negative, is written with eighteen places and no superfluous zero, and is read back from what is written. Two accepted texts have one value exactly when they denote one number. -/
theorem exact_amounts :
    (∀ text, (∃ d, parse text = .ok d) ↔ ∃ number, Denotes text.toList number) ∧
    (∀ text d number, parse text = .ok d → Denotes text.toList number → (d.units : ℚ) = number * 10 ^ 18) ∧
    (∀ units d, Computed units d → 0 ≤ units ∧ (d.units : ℤ) = units ∧
      (∃ whole part, d.text.toList = whole ++ '.' :: part ∧ Written units whole part) ∧ parse d.text = .ok d) ∧
    ∀ left right d e p q, parse left = .ok d → parse right = .ok e → Denotes left.toList p → Denotes right.toList q →
      (d = e ↔ p = q) := by
  refine ⟨fun text => ⟨?read, ?accept⟩, fun text d number => units_of_denotes, ?computed,
    fun left right d e p q => eq_iff_of_denotes⟩
  case read =>
    rintro ⟨d, hread⟩
    obtain ⟨number, hnumber, -⟩ := denotes_of_parse hread
    exact ⟨number, hnumber⟩
  case accept =>
    rintro ⟨number, hnumber⟩
    obtain ⟨d, hread, -⟩ := parse_of_denotes hnumber
    exact ⟨d, hread⟩
  case computed =>
    intro units d h
    obtain rfl := h.units_eq
    exact ⟨Int.natCast_nonneg _, rfl, written_chars d, parse_text d⟩

/-- A price in two notations, times a gas limit. -/
theorem exact_amounts_price :
    ∃ d e : Decimal, parse ".00000001" = .ok d ∧ parse "00.0000000100" = .ok e ∧ d = e ∧
      ∃ units : ℤ, Computed units ((d.scale 200000).add zero) ∧ 0 ≤ units ∧
        parse ((d.scale 200000).add zero).text = .ok ((d.scale 200000).add zero) := by
  obtain ⟨haccepted, hvalue, hcomputed, hsame⟩ := exact_amounts
  have hshort : Denotes ".00000001".toList _ :=
    @Denotes.point [] "00000001".toList (List.all_eq_true.1 (by decide)) (List.all_eq_true.1 (by decide)) (by decide)
      (by decide)
  have hlong : Denotes "00.0000000100".toList _ :=
    @Denotes.point ['0', '0'] "0000000100".toList (List.all_eq_true.1 (by decide)) (List.all_eq_true.1 (by decide))
      (by decide) (by decide)
  obtain ⟨d, hd⟩ := (haccepted ".00000001").2 ⟨_, hshort⟩
  obtain ⟨e, he⟩ := (haccepted "00.0000000100").2 ⟨_, hlong⟩
  have hwholes : placeValue [] = 0 ∧ placeValue ['0', '0'] = 0 := by decide
  have hplaces : placeValue "00000001".toList = 1 ∧ placeValue "0000000100".toList = 100 := by decide
  have hlengths : "00000001".toList.length = 8 ∧ "0000000100".toList.length = 10 := by decide
  have hnumbers : d = e := (hsame _ _ d e _ _ hd he hshort hlong).2 (by
    rw [hwholes.1, hwholes.2, hplaces.1, hplaces.2, hlengths.1, hlengths.2]
    norm_num)
  have hunits : ((d.units : ℤ) : ℚ) = _ := hvalue _ d _ hd hshort
  have hrun : Computed _ ((d.scale 200000).add zero) := .add (.scale (.parse hd hshort hunits) 200000) .zero
  obtain ⟨hpositive, -, -, hback⟩ := hcomputed _ _ hrun
  exact ⟨d, e, hd, he, hnumbers, _, hrun, hpositive, hback⟩

end Decimal

end ChainClient
