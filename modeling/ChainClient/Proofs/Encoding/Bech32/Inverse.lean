import ChainClient.Proofs.Encoding.Bech32.Canonical
import ChainClient.Proofs.Outcome

/-!
# Writing and reading undo each other

A human readable part that the writer accepts and any bytes are read back from their text, with the part in lower case. A text that is read is, in lower case, what is written of its part and its bytes, so besides the case of its letters a reader leaves it no freedom at all: the symbols behind the last separator are those of the bytes with their padding and then the checksum of the first variant. Texts with other padding or with the checksum of the other variant are refused for that reason.
-/

namespace ChainClient.Bech32

variable {text hrp : String} {part : List Char} {data symbols : List Symbol} {bytes : Bytes} {padding : List Bool}

/-! ### The part -/

theorem oneCase_iff {cs : List Char} : oneCase cs ↔ ¬ ((∃ c ∈ cs, c.isLower) ∧ ∃ c ∈ cs, c.isUpper) := by
  rw [oneCase, Bool.not_eq_true', ← Bool.not_eq_true, Bool.and_eq_true, List.any_eq_true, List.any_eq_true]

/-- A part has 1 to 83 printable ASCII characters, and not letters of both cases. -/
theorem validHrp_iff : validHrp part ↔ 1 ≤ part.length ∧ part.length ≤ 83 ∧
    (∀ c ∈ part, 33 ≤ c.toNat ∧ c.toNat ≤ 126) ∧ ¬ ((∃ c ∈ part, c.isLower) ∧ ∃ c ∈ part, c.isUpper) := by
  rw [← oneCase_iff]
  simp only [validHrp, isHrpChar, Bool.and_eq_true, decide_eq_true_eq, List.all_eq_true, and_assoc]

theorem lowerHrp_lower (h : validHrp part) : LowerHrp (lower part) := by
  have hcase : oneCase part := by
    rw [validHrp, Bool.and_eq_true] at h
    exact h.2
  refine ⟨(validHrp_lower hcase).trans h, ?_⟩
  rw [List.all_eq_not_any_not]
  simpa using any_isUpper_lower part

theorem encode_eq_ok_iff : encode hrp bytes = .ok text ↔
    validHrp hrp.toList ∧ String.ofList (assemble (lower hrp.toList) (symbolsOfBytes bytes)) = text := by
  rw [encode]
  by_cases h : validHrp hrp.toList
  · rw [if_pos h, Except.ok.injEq]
    exact ⟨fun htext => ⟨h, htext⟩, And.right⟩
  · rw [if_neg h]
    exact ⟨nofun, fun hvalid => absurd hvalid.1 h⟩

theorem toLower_eq_ofList (text : String) : text.toLower = String.ofList (lower text.toList) := by
  apply String.toList_inj.1
  rw [String.toList_ofList]
  exact String.toList_map

/-! ### There and back -/

theorem decode_of_encode (h : encode hrp bytes = .ok text) : decode text = .ok (hrp.toLower, bytes) := by
  obtain ⟨hvalid, rfl⟩ := encode_eq_ok_iff.1 h
  rw [decode_assemble (lowerHrp_lower hvalid), toLower_eq_ofList]

theorem encode_of_decode (h : decode text = .ok (hrp, bytes)) : encode hrp bytes = .ok text.toLower := by
  have hreads := reads_of_decode h
  rw [encode_eq_ok_iff, toLower_eq_ofList, hreads.lower_text, hreads.lowerHrp.lower_eq]
  exact ⟨hreads.lowerHrp.valid, rfl⟩

/-! ### What a text holds -/

/-- In lower case the text is the part, a separator and these symbols. -/
def Holds (text : String) (part : List Char) (symbols : List Symbol) : Prop :=
  lower text.toList = part ++ separator :: symbols.map Symbol.char

/-- No symbol is written as the separator, so a text holds one part and one string of symbols. -/
theorem Holds.unique {other : List Char} {others : List Symbol} (h : Holds text part symbols)
    (hother : Holds text other others) : part = other ∧ symbols = others := by
  have hsplit := splitLast_append (separator_notMem_map_char symbols) part
  rw [← h, hother, splitLast_append (separator_notMem_map_char others), Option.some.injEq, Prod.mk.injEq] at hsplit
  exact ⟨hsplit.1.symm, List.map_injective_iff.2 char_injective hsplit.2.symm⟩

/-- A text that holds these symbols and is read holds a complete one. -/
theorem Holds.residue_eq (h : Holds text part symbols) (hread : decode text = .ok (hrp, bytes)) :
    residue (expand part ++ symbols) = bech32Constant := by
  obtain ⟨rfl, rfl⟩ := h.unique (reads_of_decode hread).lower_text
  exact residue_checksum hrp.toList (symbolsOfBytes bytes)

/-- In front of the six symbols of the checksum stand those of the bytes that are read. -/
theorem Holds.data_eq {sum : List Symbol} (h : Holds text part (data ++ sum)) (hsum : sum.length = 6)
    (hread : decode text = .ok (hrp, bytes)) : data = symbolsOfBytes bytes := by
  obtain ⟨-, hsymbols⟩ := h.unique (reads_of_decode hread).lower_text
  have hlength : sum.length = (checksum hrp.toList (symbolsOfBytes bytes)).length := by rw [hsum, length_checksum]
  exact (List.append_inj' hsymbols hlength).1

/-! ### Padding -/

/-- The symbols hold the bits of the bytes and behind them fewer than eight bits more, the padding. -/
structure Packs (symbols : List Symbol) (bytes : Bytes) (padding : List Bool) : Prop where
  bits : symbols.flatMap Symbol.bits = bytes.flatMap byteBits ++ padding
  length_lt : padding.length < 8

theorem length_flatMap_byteBits (bytes : Bytes) : (bytes.flatMap byteBits).length = 8 * bytes.length := by
  induction bytes with
  | nil => rfl
  | cons byte bytes ih =>
    have hbits : (byteBits byte).length = 8 := rfl
    rw [List.flatMap_cons, List.length_append, ih, hbits, List.length_cons]
    omega

/-- The padding of symbols that are read as bytes is fewer than five zeros. -/
theorem Packs.padding_eq {read : Bytes} (h : Packs symbols bytes padding) (hread : bytesOfSymbols? symbols = some read) :
    ∃ fill, fill < 5 ∧ padding = List.replicate fill false := by
  obtain ⟨fill, hfill, hbits⟩ := eq_append_of_packBytes? hread
  have hlt := h.length_lt
  have hsame := h.bits.symm.trans hbits
  have hlength := congrArg List.length hsame
  rw [List.length_append, List.length_append, length_flatMap_byteBits, length_flatMap_byteBits,
    List.length_replicate] at hlength
  have hfront : (bytes.flatMap byteBits).length = (read.flatMap byteBits).length := by
    rw [length_flatMap_byteBits, length_flatMap_byteBits]
    omega
  exact ⟨fill, hfill, (List.append_inj hsame hfront).2⟩

/-! ### Refused texts -/

/-- A text is refused when nothing can be read of it. -/
theorem exists_error (h : ∀ parts, decode text ≠ .ok parts) : ∃ e, decode text = .error e := by
  cases hread : decode text with
  | error e => exact ⟨e, rfl⟩
  | ok parts => exact absurd hread (h parts)

theorem exists_error_of_bech32m (h : Holds text part symbols)
    (hvariant : residue (expand part ++ symbols) = bech32mConstant) : ∃ e, decode text = .error e := by
  apply exists_error
  intro parts hread
  have hconstants : bech32mConstant = bech32Constant := hvariant.symm.trans (h.residue_eq hread)
  exact absurd hconstants (by decide)

theorem exists_error_of_padding {sum : List Symbol} (h : Holds text part (data ++ sum)) (hsum : sum.length = 6)
    (hpacks : Packs data bytes padding) (hpadding : 5 ≤ padding.length ∨ true ∈ padding) :
    ∃ e, decode text = .error e := by
  apply exists_error
  intro parts hread
  have hdata := h.data_eq hsum hread
  obtain ⟨fill, hfill, rfl⟩ := hpacks.padding_eq (hdata ▸ bytesOfSymbols?_symbolsOfBytes parts.2)
  rcases hpadding with hlong | hbit
  · rw [List.length_replicate] at hlong
    omega
  · exact absurd (List.eq_of_mem_replicate hbit) (by decide)

/-- **Writing and reading are inverse.** A part of 1 to 83 printable ASCII characters whose letters do not differ in case is written with any bytes, and this part in lower case and these bytes are read back, by either reader. A text that is read is in lower case what is written of the part and the bytes that were read. A text is refused if its checksum is that of the other variant, and if behind the bits of whole bytes its data has five bits more or a bit that is set. -/
theorem encode_decode_inverse :
    (∀ hrp bytes, (∃ text, encode hrp bytes = .ok text) ↔ 1 ≤ hrp.toList.length ∧ hrp.toList.length ≤ 83 ∧
      (∀ c ∈ hrp.toList, 33 ≤ c.toNat ∧ c.toNat ≤ 126) ∧
      ¬ ((∃ c ∈ hrp.toList, c.isLower) ∧ ∃ c ∈ hrp.toList, c.isUpper)) ∧
    (∀ hrp bytes text, encode hrp bytes = .ok text →
      decode text = .ok (hrp.toLower, bytes) ∧ decodeData text = .ok bytes) ∧
    (∀ text hrp bytes, decode text = .ok (hrp, bytes) → encode hrp bytes = .ok text.toLower) ∧
    (∀ text part symbols, Holds text part symbols → residue (expand part ++ symbols) = bech32mConstant →
      ∃ e, decode text = .error e) ∧
    ∀ text part data sum, Holds text part (data ++ sum) → sum.length = 6 → ∀ bytes padding, Packs data bytes padding →
      5 ≤ padding.length ∨ true ∈ padding → ∃ e, decode text = .error e := by
  refine ⟨fun hrp bytes => ?accepted, fun hrp bytes text h => ?read, fun text hrp bytes => encode_of_decode,
    fun text part symbols => exists_error_of_bech32m,
    fun text part data sum h hsum bytes padding => exists_error_of_padding h hsum⟩
  case accepted =>
    rw [← validHrp_iff]
    simp [encode_eq_ok_iff]
  case read =>
    have hread := decode_of_encode h
    refine ⟨hread, ?_⟩
    rw [decodeData, hread]
    rfl

/-- A part in upper case that holds a separator, with bytes that leave four bits of padding, is written and read back, also from a text in upper case. Refused are a complete text of the other variant, a text with five zeros for padding and one with a bit set in its padding, although their checksums are right. -/
theorem encode_decode_inverse_texts :
    encode "A1" [0xff, 0x00] = .ok "a11luqqg9wwwc" ∧ decode "a11luqqg9wwwc" = .ok ("A1".toLower, [0xff, 0x00]) ∧
    encode "a1" [0xff, 0x00] = .ok "A11LUQQG9WWWC".toLower ∧
    (∃ e, decode "A1LQFN3A" = .error e) ∧
    (∃ e, decode (String.ofList (assemble ['a'] [0])) = .error e) ∧
    ∃ e, decode (String.ofList (assemble ['a'] [31, 29])) = .error e := by
  obtain ⟨-, hread, hwritten, hvariant, hpadding⟩ := encode_decode_inverse
  have hencode : encode "A1" [0xff, 0x00] = .ok "a11luqqg9wwwc" := by decide +kernel
  have hdecode : decode "A11LUQQG9WWWC" = .ok ("a1", [0xff, 0x00]) := by decide +kernel
  have hother : Holds "A1LQFN3A" ['a'] [31, 0, 9, 19, 17, 29] := by
    unfold Holds
    decide
  have hlong : Holds (String.ofList (assemble ['a'] [0])) ['a'] ([0] ++ checksum ['a'] [0]) := by
    unfold Holds
    decide +kernel
  have hset : Holds (String.ofList (assemble ['a'] [31, 29])) ['a'] ([31, 29] ++ checksum ['a'] [31, 29]) := by
    unfold Holds
    decide +kernel
  refine ⟨hencode, (hread _ _ _ hencode).1, hwritten _ _ _ hdecode, hvariant _ _ _ hother (by decide), ?_, ?_⟩
  · exact hpadding _ _ _ _ hlong rfl [] (List.replicate 5 false) ⟨rfl, by decide⟩ (.inl (by decide))
  · exact hpadding _ _ _ _ hset rfl [0xff] [false, true] ⟨by decide, by decide⟩ (.inr (by decide))

end ChainClient.Bech32
