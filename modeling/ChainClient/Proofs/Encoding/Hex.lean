import Mathlib.Data.Bool.AllAny
import ChainClient.Encoding.Hex
import ChainClient.Proofs.Outcome
import ChainClient.Proofs.Text.LetterCase

/-!
# Hexadecimal text

A digit of either case is read as its value, so what is written of bytes in either case is read as these bytes. Accepted are the texts of an even number of digits, which in lower case are written of the bytes they are read as, and a mark in front of them is never taken for digits.
-/

namespace ChainClient.Hex

variable {cs : List Char} {bytes : Bytes}

/-! ### Digits -/

/-- The digits of both cases. -/
def alphabet : List Char := "0123456789abcdefABCDEF".toList

theorem ascii_of_digit? {c : Char} {n : Nat} (h : digit? c = some n) : c.toNat < 128 := by
  have hbound : ∀ last : Char, last.toNat < 128 → c ≤ last → c.toNat < 128 := fun last hlast hle =>
    Nat.lt_of_le_of_lt (UInt32.le_iff_toNat_le.1 hle) hlast
  rw [digit?] at h
  split at h
  · rename_i hdigit
    exact hbound '9' (by decide) (by simp_all [Char.isDigit, Char.le_def])
  · split at h
    · rename_i hlower
      exact hbound 'f' (by decide) hlower.2
    · split at h
      · rename_i hupper
        exact hbound 'F' (by decide) hupper.2
      · cases h

theorem mem_alphabet_iff {c : Char} : c ∈ alphabet ↔ ∃ n, digit? c = some n := by
  constructor
  · have hall : ∀ c ∈ alphabet, (digit? c).isSome := List.all_iff_forall_prop.1 (by decide)
    intro hc
    exact Option.isSome_iff_exists.1 (hall c hc)
  · rintro ⟨n, h⟩
    have hall : ∀ code < 128, (digit? (Char.ofNat code)).isSome → Char.ofNat code ∈ alphabet := by decide
    have hcode := hall c.toNat (ascii_of_digit? h)
    rw [Char.ofNat_toNat, h] at hcode
    exact hcode rfl

theorem digit?_lowerDigit {n : Nat} (h : n < 16) : digit? (lowerDigit n) = some n := by
  revert n
  decide

theorem digit?_upperDigit {n : Nat} (h : n < 16) : digit? (upperDigit n) = some n := by
  revert n
  decide

/-! ### Pairs of digits -/

theorem pairs?_cons_cons_eq_some_iff {high low : Char} : pairs? (high :: low :: cs) = some bytes ↔
    ∃ h l tail, digit? high = some h ∧ digit? low = some l ∧ pairs? cs = some tail ∧
      UInt8.ofNat (16 * h + l) :: tail = bytes := by
  simp [pairs?, bind, pure, Option.bind_eq_some_iff]

theorem digits_of_pairs? (h : pairs? cs = some bytes) : cs.length = 2 * bytes.length ∧ ∀ c ∈ cs, c ∈ alphabet := by
  induction cs using pairs?.induct generalizing bytes with
  | case1 =>
    cases h
    exact ⟨rfl, nofun⟩
  | case2 c => cases h
  | case3 high low rest ih =>
    obtain ⟨high', low', tail, hhigh, hlow, hrest, rfl⟩ := pairs?_cons_cons_eq_some_iff.1 h
    obtain ⟨hlength, hall⟩ := ih hrest
    refine ⟨by simp only [List.length_cons, hlength]; omega, ?_⟩
    exact List.forall_mem_cons.2 ⟨mem_alphabet_iff.2 ⟨_, hhigh⟩,
      List.forall_mem_cons.2 ⟨mem_alphabet_iff.2 ⟨_, hlow⟩, hall⟩⟩

theorem exists_pairs? {length : Nat} (hlength : cs.length = 2 * length) (h : ∀ c ∈ cs, c ∈ alphabet) :
    ∃ bytes, pairs? cs = some bytes := by
  induction cs using pairs?.induct generalizing length with
  | case1 => exact ⟨[], rfl⟩
  | case2 c =>
    rw [List.length_singleton] at hlength
    omega
  | case3 high low rest ih =>
    obtain ⟨hhigh, h⟩ := List.forall_mem_cons.1 h
    obtain ⟨hlow, h⟩ := List.forall_mem_cons.1 h
    obtain ⟨high', hhigh'⟩ := mem_alphabet_iff.1 hhigh
    obtain ⟨low', hlow'⟩ := mem_alphabet_iff.1 hlow
    rw [List.length_cons, List.length_cons] at hlength
    have hrest : rest.length = 2 * (length - 1) := by omega
    obtain ⟨tail, htail⟩ := ih hrest h
    exact ⟨_, pairs?_cons_cons_eq_some_iff.2 ⟨high', low', tail, hhigh', hlow', htail, rfl⟩⟩

/-- What is read as so many bytes is a text of twice as many digits. -/
theorem exists_pairs?_iff {length : Nat} :
    (∃ bytes, pairs? cs = some bytes ∧ bytes.length = length) ↔ cs.length = 2 * length ∧ ∀ c ∈ cs, c ∈ alphabet := by
  constructor
  · rintro ⟨bytes, h, rfl⟩
    exact digits_of_pairs? h
  · rintro ⟨hlength, hall⟩
    obtain ⟨bytes, h⟩ := exists_pairs? hlength hall
    have hdouble := (digits_of_pairs? h).1
    exact ⟨bytes, h, by omega⟩

/-! ### Written bytes -/

/-- Two digits of a number below 256 make up its byte. -/
theorem ofNat_digits (byte : UInt8) : UInt8.ofNat (16 * (byte.toNat / 16) + byte.toNat % 16) = byte := by
  rw [Nat.div_add_mod, UInt8.ofNat_toNat]

/-- Digits of any form that is read are read as the bytes that they were written of. -/
theorem pairs?_flatMap {digit : Nat → Char} (h : ∀ {n}, n < 16 → digit? (digit n) = some n) (bytes : Bytes) :
    pairs? (bytes.flatMap fun byte => [digit (byte.toNat / 16), digit (byte.toNat % 16)]) = some bytes := by
  induction bytes with
  | nil => rfl
  | cons byte bytes ih =>
    have hlt := byte.toNat_lt
    have hhigh := h (n := byte.toNat / 16) (by omega)
    have hlow := h (n := byte.toNat % 16) (by omega)
    exact pairs?_cons_cons_eq_some_iff.2 ⟨_, _, bytes, hhigh, hlow, ih, by rw [ofNat_digits]⟩

@[simp] theorem pairs?_encode (bytes : Bytes) : pairs? (encode bytes).toList = some bytes := by
  rw [encode, String.toList_ofList]
  exact pairs?_flatMap digit?_lowerDigit bytes

@[simp] theorem pairs?_encodeUpper (bytes : Bytes) : pairs? (encodeUpper bytes).toList = some bytes := by
  rw [encodeUpper, String.toList_ofList]
  exact pairs?_flatMap digit?_upperDigit bytes

theorem encode_injective {left right : Bytes} (h : encode left = encode right) : left = right := by
  have hpairs := pairs?_encode left
  rw [h, pairs?_encode] at hpairs
  exact (Option.some.inj hpairs).symm

theorem length_encode (bytes : Bytes) : (encode bytes).toList.length = 2 * bytes.length :=
  (digits_of_pairs? (pairs?_encode bytes)).1

/-! ### Letter case -/

theorem digit?_toLower (c : Char) : digit? c.toLower = digit? c := by
  induction c using Text.letterCase_induction with
  | ascii code hcode =>
    revert code
    decide
  | caseless c _ _ hlower _ => rw [hlower]

theorem pairs?_map_toLower (cs : List Char) : pairs? (cs.map Char.toLower) = pairs? cs := by
  induction cs using pairs?.induct with
  | case1 => rfl
  | case2 c => rfl
  | case3 high low rest ih =>
    rw [List.map_cons, List.map_cons, pairs?, pairs?, digit?_toLower, digit?_toLower, ih]

/-- In lower case a digit is the one that is written of its value. -/
theorem toLower_of_digit? {c : Char} {n : Nat} (h : digit? c = some n) : n < 16 ∧ c.toLower = Nat.digitChar n := by
  have hall : ∀ c ∈ alphabet, (digit? c).all fun n => n < 16 ∧ c.toLower = Nat.digitChar n :=
    List.all_iff_forall_prop.1 (by decide)
  have hdigit := hall c (mem_alphabet_iff.2 ⟨n, h⟩)
  rw [h] at hdigit
  exact of_decide_eq_true hdigit

/-- The digits that are read as some bytes are those that are written of them, in whatever case. -/
theorem pairs?_eq_some_iff : pairs? cs = some bytes ↔ cs.map Char.toLower =
    bytes.flatMap fun byte => [Nat.digitChar (byte.toNat / 16), Nat.digitChar (byte.toNat % 16)] := by
  constructor
  · intro h
    induction cs using pairs?.induct generalizing bytes with
    | case1 =>
      cases h
      rfl
    | case2 c => cases h
    | case3 high low rest ih =>
      obtain ⟨high', low', tail, hhigh, hlow, hrest, rfl⟩ := pairs?_cons_cons_eq_some_iff.1 h
      obtain ⟨hhigh', hupper⟩ := toLower_of_digit? hhigh
      obtain ⟨hlow', hlower⟩ := toLower_of_digit? hlow
      have hbyte : (UInt8.ofNat (16 * high' + low')).toNat = 16 * high' + low' :=
        UInt8.toNat_ofNat_of_lt' (by show 16 * high' + low' < 256; omega)
      have hdiv : (16 * high' + low') / 16 = high' := by omega
      have hmod : (16 * high' + low') % 16 = low' := by omega
      rw [List.map_cons, List.map_cons, List.flatMap_cons, hbyte, hdiv, hmod, hupper, hlower, ih hrest]
      rfl
  · intro h
    rw [← pairs?_map_toLower, h]
    exact pairs?_flatMap digit?_lowerDigit bytes

/-! ### A mark in front -/

theorem dropMark_of_digits (h : ∀ c ∈ cs, c ∈ alphabet) : dropMark cs = cs := by
  unfold dropMark
  split
  · exact absurd (h 'x' (by simp)) (by decide)
  · rfl

/-- One mark is dropped, if it is there. -/
theorem dropMark_cases (cs : List Char) : cs = dropMark cs ∨ cs = '0' :: 'x' :: dropMark cs := by
  unfold dropMark
  split
  · exact .inr rfl
  · exact .inl rfl

theorem decode_eq_ok_iff {text : String} : decode text = .ok bytes ↔ pairs? (dropMark text.toList) = some bytes := by
  rw [decode]
  cases pairs? (dropMark text.toList) with
  | none => exact iff_of_false nofun nofun
  | some read => rw [Except.ok.injEq, Option.some.injEq]

theorem decode_encodeUpper (bytes : Bytes) : decode (encodeUpper bytes) = .ok bytes := by
  rw [decode_eq_ok_iff, dropMark_of_digits (digits_of_pairs? (pairs?_encodeUpper bytes)).2, pairs?_encodeUpper]

end ChainClient.Hex
