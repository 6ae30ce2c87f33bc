import ChainClient.Encoding.Bech32.Symbol

/-!
# Bytes as symbols and back

The symbols of a byte string hold its bits followed by fewer than five zeros, which is what the way back accepts; so regrouping loses nothing. Symbols that the way back accepts hold bytes followed by such a fill, whose length is settled by that of the bytes; so no other symbols stand for the same bytes.
-/

namespace ChainClient.Bech32

/-! ### Symbols and their characters -/

theorem ofChar?_char : ∀ s : Symbol, Symbol.ofChar? s.char.toLower = some s := by decide

theorem char_ne_separator : ∀ s : Symbol, s.char ≠ '1' := by decide

theorem isUpper_char : ∀ s : Symbol, s.char.isUpper = false := by decide

theorem eq_char_of_ofChar? {c : Char} {s : Symbol} (h : Symbol.ofChar? c = some s) : c = s.char :=
  (List.finIdxOf?_eq_some_iff.1 h).1.symm

/-! ### Bits -/

theorem bits_ofBits : ∀ a b c d e : Bool, (Symbol.ofBits [a, b, c, d, e]).bits = [a, b, c, d, e] := by decide

set_option maxRecDepth 10000 in
theorem bitsValue_bits_of_lt : ∀ n : Fin 256, bitsValue ([7, 6, 5, 4, 3, 2, 1, 0].map n.val.testBit) = n.val := by decide

theorem ofNat_bitsValue_byteBits (byte : UInt8) : UInt8.ofNat (bitsValue (byteBits byte)) = byte := by
  rw [byteBits, bitsValue_bits_of_lt ⟨byte.toNat, byte.toNat_lt⟩, UInt8.ofNat_toNat]

theorem flatMap_bits_packSymbols (bits : List Bool) :
    ∃ fill, fill < 5 ∧ (packSymbols bits).flatMap Symbol.bits = bits ++ List.replicate fill false := by
  fun_induction packSymbols bits with
  | case1 => exact ⟨0, by decide, rfl⟩
  | case2 a => exact ⟨4, by decide, bits_ofBits a false false false false⟩
  | case3 a b => exact ⟨3, by decide, bits_ofBits a b false false false⟩
  | case4 a b c => exact ⟨2, by decide, bits_ofBits a b c false false⟩
  | case5 a b c d => exact ⟨1, by decide, bits_ofBits a b c d false⟩
  | case6 a b c d e rest ih =>
    obtain ⟨fill, hfill, hrest⟩ := ih
    refine ⟨fill, hfill, ?_⟩
    rw [List.flatMap_cons, bits_ofBits, hrest]
    rfl

theorem packBytes?_byteBits (bytes : Bytes) {fill : Nat} (hfill : fill < 5) :
    packBytes? (bytes.flatMap byteBits ++ List.replicate fill false) = some bytes := by
  induction bytes with
  | nil =>
    match fill, hfill with
    | 0, _ | 1, _ | 2, _ | 3, _ | 4, _ => rfl
  | cons byte bytes ih =>
    have hstep : ∀ bits, packBytes? (byteBits byte ++ bits) =
        (packBytes? bits).map (UInt8.ofNat (bitsValue (byteBits byte)) :: ·) := fun bits => rfl
    rw [List.flatMap_cons, List.append_assoc, hstep, ih, ofNat_bitsValue_byteBits]
    rfl

theorem ofBits_bits : ∀ s : Symbol, Symbol.ofBits s.bits = s := by decide

theorem packSymbols_flatMap_bits (symbols : List Symbol) : packSymbols (symbols.flatMap Symbol.bits) = symbols := by
  induction symbols with
  | nil => rfl
  | cons s symbols ih =>
    have hstep : ∀ bits, packSymbols (s.bits ++ bits) = Symbol.ofBits s.bits :: packSymbols bits := fun bits => rfl
    rw [List.flatMap_cons, hstep, ofBits_bits, ih]

theorem length_flatMap_bits (symbols : List Symbol) : (symbols.flatMap Symbol.bits).length = 5 * symbols.length := by
  induction symbols with
  | nil => rfl
  | cons s symbols ih =>
    have hbits : s.bits.length = 5 := rfl
    rw [List.flatMap_cons, List.length_append, ih, hbits, List.length_cons]
    omega

/-- The fill of the last symbol is less than a symbol, so the number of bits settles how long it is. -/
theorem packSymbols_of_append_fill {symbols : List Symbol} {bits : List Bool} {fill : Nat} (hfill : fill < 5)
    (h : symbols.flatMap Symbol.bits = bits ++ List.replicate fill false) : packSymbols bits = symbols := by
  obtain ⟨packedFill, hpackedFill, hpacked⟩ := flatMap_bits_packSymbols bits
  have hlength := congrArg List.length h
  have hpackedLength := congrArg List.length hpacked
  rw [length_flatMap_bits, List.length_append, List.length_replicate] at hlength hpackedLength
  have hsame : packedFill = fill := by omega
  rw [hsame, ← h] at hpacked
  rw [← packSymbols_flatMap_bits (packSymbols bits), hpacked, packSymbols_flatMap_bits]

theorem byteBits_ofNat_bitsValue : ∀ a b c d e f g h : Bool,
    byteBits (UInt8.ofNat (bitsValue [a, b, c, d, e, f, g, h])) = [a, b, c, d, e, f, g, h] := by decide

theorem eq_append_of_packBytes? {bits : List Bool} {bytes : Bytes} (hread : packBytes? bits = some bytes) :
    ∃ fill, fill < 5 ∧ bits = bytes.flatMap byteBits ++ List.replicate fill false := by
  fun_induction packBytes? bits generalizing bytes with
  | case1 a b c d e f g h rest ih =>
    obtain ⟨others, hothers, rfl⟩ := Option.map_eq_some_iff.1 hread
    obtain ⟨fill, hfill, hrest⟩ := ih hothers
    refine ⟨fill, hfill, ?_⟩
    rw [List.flatMap_cons, byteBits_ofNat_bitsValue, List.append_assoc, ← hrest]
    rfl
  | case2 left _ hleft =>
    cases hread
    refine ⟨left.length, hleft.1, List.eq_replicate_iff.2 ⟨rfl, fun bit hbit => ?_⟩⟩
    simpa using List.all_eq_true.1 hleft.2 bit hbit
  | case3 => exact absurd hread (by simp)

@[simp] theorem bytesOfSymbols?_symbolsOfBytes (bytes : Bytes) : bytesOfSymbols? (symbolsOfBytes bytes) = some bytes := by
  obtain ⟨fill, hfill, hbits⟩ := flatMap_bits_packSymbols (bytes.flatMap byteBits)
  rw [bytesOfSymbols?, symbolsOfBytes, hbits, packBytes?_byteBits bytes hfill]

/-- Only the symbols that are written for bytes are read as these bytes. -/
theorem symbolsOfBytes_of_bytesOfSymbols? {symbols : List Symbol} {bytes : Bytes}
    (h : bytesOfSymbols? symbols = some bytes) : symbolsOfBytes bytes = symbols := by
  obtain ⟨fill, hfill, hbits⟩ := eq_append_of_packBytes? h
  exact packSymbols_of_append_fill hfill hbits

end ChainClient.Bech32
