import Mathlib.Data.List.Induction
import Mathlib.Data.Nat.Digits.Defs
import Mathlib.Tactic.IntervalCases
import Mathlib.Tactic.Ring
import ChainClient.Text.Number

/-!
# Written numbers read back

Every number is written in at least one digit, without a zero in front unless it is zero, and its readers give it back. Digit strings are compared through the number they denote, and what the readers accept is described by the number that it denotes by the places of its digits.
-/

namespace ChainClient.Text

/-! ### Natural numbers -/

@[simp] theorem digitsValue_digits (n : Nat) : digitsValue (digits n) = n := Nat.ofDigitChars_ten_toDigits

theorem digits_ne_nil (n : Nat) : digits n ≠ [] := Nat.toDigits_ne_nil

theorem isDigit_of_mem_digits {n : Nat} {c : Char} (h : c ∈ digits n) : c.isDigit :=
  Nat.isDigit_of_mem_toDigits (by decide) (by decide) h

theorem digits_ne_cons {n : Nat} {c : Char} (hc : c.isDigit = false) (rest : List Char) : digits n ≠ c :: rest := by
  intro h
  have hdigit : c.isDigit = true := isDigit_of_mem_digits (h ▸ List.mem_cons_self)
  rw [hc] at hdigit
  exact Bool.false_ne_true hdigit

theorem all_isDigit_digits (n : Nat) : (digits n).all Char.isDigit :=
  List.all_eq_true.2 fun _ hc => isDigit_of_mem_digits hc

@[simp] theorem isNumeral_digits (n : Nat) : isNumeral (digits n) = true := by
  simp [isNumeral, digits_ne_nil, all_isDigit_digits]

@[simp] theorem readNat?_digits (n : Nat) : readNat? (digits n) = some n := by
  rw [readNat?, if_pos (isNumeral_digits n), digitsValue_digits]

theorem digitsValue_append (left right : List Char) :
    digitsValue (left ++ right) = digitsValue left * 10 ^ right.length + digitsValue right := by
  induction right using List.reverseRecOn generalizing left with
  | nil => simp [digitsValue]
  | append_singleton right c ih =>
    have happend : digitsValue (left ++ (right ++ [c])) = 10 * digitsValue (left ++ right) + (c.toNat - '0'.toNat) := by
      simp [digitsValue]
    have hright : digitsValue (right ++ [c]) = 10 * digitsValue right + (c.toNat - '0'.toNat) := by
      simp [digitsValue]
    rw [happend, hright, ih, List.length_append, List.length_singleton, Nat.pow_succ]
    ring

@[simp] theorem digitsValue_zeros (count : Nat) : digitsValue (List.replicate count '0') = 0 := by
  induction count with
  | zero => rfl
  | succ count ih => simpa [digitsValue, List.replicate_succ] using ih

/-- The number that digits denote by their places, the last one in the place of the ones. -/
def placeValue (ds : List Char) : Nat := Nat.ofDigits 10 (ds.reverse.map fun c => c.toNat - '0'.toNat)

theorem digitsValue_eq_placeValue (ds : List Char) : digitsValue ds = placeValue ds := by
  induction ds using List.reverseRecOn with
  | nil => rfl
  | append_singleton ds c ih =>
    have hread : digitsValue (ds ++ [c]) = 10 * digitsValue ds + (c.toNat - '0'.toNat) := by simp [digitsValue]
    have hplaces : placeValue (ds ++ [c]) = (c.toNat - '0'.toNat) + 10 * placeValue ds := by
      rw [placeValue, List.reverse_append, List.reverse_singleton, List.singleton_append, List.map_cons, Nat.ofDigits_cons]
      rfl
    rw [hread, hplaces, ih, Nat.add_comm]

theorem length_digits_le {n width : Nat} (hwidth : 0 < width) (h : n < 10 ^ width) : (digits n).length ≤ width :=
  (Nat.length_toDigits_le_iff (by decide) hwidth).2 h

theorem head?_digits_ne_zero {n : Nat} (h : 0 < n) : (digits n).head? ≠ some '0' := by
  induction n using Nat.strongRecOn with
  | ind n ih =>
    rcases Nat.lt_or_ge n 10 with hlt | hge
    · rw [digits, Nat.toDigits_of_lt_base hlt]
      interval_cases n <;> decide
    · have hrest : 0 < n / 10 := Nat.div_pos hge (by decide)
      have hhead := ih (n / 10) (by omega) hrest
      obtain ⟨c, cs, hcons⟩ := List.exists_cons_of_ne_nil (digits_ne_nil (n / 10))
      have hsplit : digits n = digits (n / 10) ++ [(n % 10).digitChar] := Nat.toDigits_of_base_le (by decide) hge
      rw [hcons] at hhead hsplit
      rw [hsplit]
      exact hhead

theorem isDigit_or_minus_of_mem_integer {n : Int} {c : Char} (h : c ∈ integer n) : c.isDigit ∨ c = '-' := by
  cases n with
  | ofNat n => exact .inl (isDigit_of_mem_digits h)
  | negSucc n => exact (List.mem_cons.1 h).symm.imp_left isDigit_of_mem_digits

/-! ### The readers -/

theorem readUnsigned?_digits {n bound : Nat} (h : n < bound) : readUnsigned? bound (digits n) = some n := by
  unfold readUnsigned?
  split
  · rename_i rest heq
    exact absurd heq (digits_ne_cons (by decide) rest)
  · rw [readNat?_digits, Option.filter_some, if_pos (by simpa using h)]

@[simp] theorem readUInt64?_digits (n : UInt64) : readUInt64? (String.ofList (digits n.toNat)) = some n := by
  rw [readUInt64?, String.toList_ofList, readUnsigned?_digits n.toNat_lt, Option.map_some, UInt64.ofNat_toNat]

theorem readNat?_eq_some_iff {cs : List Char} {n : Nat} :
    readNat? cs = some n ↔ cs ≠ [] ∧ (∀ c ∈ cs, c.isDigit) ∧ placeValue cs = n := by
  have hnumeral : isNumeral cs ↔ cs ≠ [] ∧ ∀ c ∈ cs, c.isDigit := by simp [isNumeral]
  rw [readNat?, ← digitsValue_eq_placeValue, ← and_assoc, ← hnumeral]
  by_cases h : isNumeral cs <;> simp [h]

/-- A number as texts give it that know no minus sign: at least one digit, after an optional plus sign. -/
inductive Unsigned : List Char → Nat → Prop
  | bare {ds : List Char} (hfilled : ds ≠ []) (hdigits : ∀ c ∈ ds, c.isDigit) : Unsigned ds (placeValue ds)
  | plus {ds : List Char} (hfilled : ds ≠ []) (hdigits : ∀ c ∈ ds, c.isDigit) : Unsigned ('+' :: ds) (placeValue ds)

theorem readUnsigned?_eq_some_iff {bound : Nat} {cs : List Char} {n : Nat} :
    readUnsigned? bound cs = some n ↔ Unsigned cs n ∧ n < bound := by
  constructor
  · intro h
    obtain ⟨hread, hbound⟩ := Option.filter_eq_some_iff.1 h
    refine ⟨?_, of_decide_eq_true hbound⟩
    split at hread
    all_goals
      obtain ⟨hfilled, hdigits, rfl⟩ := readNat?_eq_some_iff.1 hread
    · exact .plus hfilled hdigits
    · exact .bare hfilled hdigits
  · rintro ⟨hunsigned, hbound⟩
    refine Option.filter_eq_some_iff.2 ⟨?_, decide_eq_true hbound⟩
    cases hunsigned with
    | plus hfilled hdigits => exact readNat?_eq_some_iff.2 ⟨hfilled, hdigits, rfl⟩
    | bare hfilled hdigits =>
      split
      · exact absurd (hdigits '+' List.mem_cons_self) (by decide)
      · exact readNat?_eq_some_iff.2 ⟨hfilled, hdigits, rfl⟩

theorem Unsigned.eq {cs : List Char} {m n : Nat} (hm : Unsigned cs m) (hn : Unsigned cs n) : m = n := by
  have hleft := readUnsigned?_eq_some_iff.2 ⟨hm, Nat.lt_succ_of_le (Nat.le_max_left m n)⟩
  have hright := readUnsigned?_eq_some_iff.2 ⟨hn, Nat.lt_succ_of_le (Nat.le_max_right m n)⟩
  exact Option.some.inj (hleft.symm.trans hright)

theorem Unsigned.ne_nil {cs : List Char} {n : Nat} (h : Unsigned cs n) : cs ≠ [] := by
  cases h with
  | bare hfilled => exact hfilled
  | plus => exact List.cons_ne_nil _ _

theorem Unsigned.not_mem {cs : List Char} {n : Nat} (h : Unsigned cs n) {c : Char} (hdigit : c.isDigit = false)
    (hplus : c ≠ '+') : c ∉ cs := by
  have hnone {ds : List Char} (hdigits : ∀ d ∈ ds, d.isDigit) : c ∉ ds := fun hmem => by
    rw [hdigits c hmem] at hdigit
    cases hdigit
  cases h with
  | bare _ hdigits => exact hnone hdigits
  | plus _ hdigits => exact List.not_mem_cons_of_ne_of_not_mem hplus (hnone hdigits)

theorem unsigned_digits (n : Nat) : Unsigned (digits n) n :=
  (readUnsigned?_eq_some_iff.1 (readUnsigned?_digits n.lt_succ_self)).1

theorem readSigned?_integer {n : Int} {bound : Nat} (hlow : -bound ≤ n) (hhigh : n < bound) :
    readSigned? bound (integer n) = some n := by
  cases n with
  | ofNat n =>
    have hlt : n < bound := by simpa using hhigh
    unfold readSigned?
    split
    · rename_i rest heq
      exact absurd heq (digits_ne_cons (by decide) rest)
    · rw [integer, readUnsigned?_digits hlt, Option.map_some]
  | negSucc n =>
    have hle : n + 1 ≤ bound := by omega
    simp only [readSigned?, integer, readNat?_digits, Option.filter_some, hle, decide_true, if_true]
    rfl

@[simp] theorem readInt64?_integer (n : Int64) : readInt64? (String.ofList (integer n.toInt)) = some n := by
  have hlow : -((2 ^ 63 : Nat) : Int) ≤ n.toInt := by simpa using n.le_toInt
  have hhigh : n.toInt < ((2 ^ 63 : Nat) : Int) := by simpa using n.toInt_lt
  rw [readInt64?, String.toList_ofList, readSigned?_integer hlow hhigh, Option.map_some, Int64.ofInt_toInt]

theorem integer_injective {m n : Int} (h : integer m = integer n) : m = n := by
  have hm : readSigned? (m.natAbs + n.natAbs + 1) (integer m) = some m := readSigned?_integer (by omega) (by omega)
  have hn : readSigned? (m.natAbs + n.natAbs + 1) (integer n) = some n := readSigned?_integer (by omega) (by omega)
  rw [h, hn] at hm
  exact (Option.some.inj hm).symm

end ChainClient.Text
