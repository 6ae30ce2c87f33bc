import ChainClient.Encoding.Base64
import ChainClient.Proofs.Text.Utf8

/-!
# Bytes read back from base64 text

Every symbol is an ASCII character, is read as its six bits and is not the padding. So each group of four symbols is read as the bytes that it was written for, and the padding at the end tells how many there were.
-/

namespace ChainClient.Base64

/-- The byte of a symbol. -/
def symbolByte (n : Nat) : UInt8 := UInt8.ofNat (symbol n).toNat

theorem value?_symbolByte {n : Nat} (h : n < 64) : value? (symbolByte n) = some n := by
  revert n
  decide

theorem symbolByte_ne_pad {n : Nat} (h : n < 64) : symbolByte n ≠ 61 := by
  revert n
  decide

theorem ofChars_symbol {n : Nat} (h : n < 64) (cs : List Char) :
    Bytes.ofChars (symbol n :: cs) = symbolByte n :: Bytes.ofChars cs := by
  have hascii : ∀ n < 64, (symbol n).toNat < 128 := by decide
  rw [Bytes.ofChars_cons, Bytes.encode_ascii (hascii n h)]
  rfl

theorem ofChars_pad (cs : List Char) : Bytes.ofChars ('=' :: cs) = 61 :: Bytes.ofChars cs := by
  rw [Bytes.ofChars_cons, Bytes.encode_ascii (by decide)]
  rfl

/-! ### Groups of four symbols -/

section Groups

variable {k l m n : Nat}

theorem decodeBytes?_one (hk : k < 64) (hl : l < 64) (hfill : l % 16 = 0) :
    decodeBytes? [symbolByte k, symbolByte l, 61, 61] = some [UInt8.ofNat (k * 4 + l / 16)] := by
  rw [decodeBytes?, value?_symbolByte hk, value?_symbolByte hl]
  simp only [Option.bind_eq_bind, Option.bind_some]
  rw [if_pos, if_pos hfill]
  exact ⟨rfl, rfl, trivial⟩

theorem decodeBytes?_two (hk : k < 64) (hl : l < 64) (hm : m < 64) (hfill : m % 4 = 0) :
    decodeBytes? [symbolByte k, symbolByte l, symbolByte m, 61] =
      some [UInt8.ofNat (k * 4 + l / 16), UInt8.ofNat (l % 16 * 16 + m / 4)] := by
  have hpad := symbolByte_ne_pad hm
  rw [decodeBytes?, value?_symbolByte hk, value?_symbolByte hl, value?_symbolByte hm]
  simp only [Option.bind_eq_bind, Option.bind_some]
  rw [if_neg fun h => hpad h.1, if_pos, if_pos hfill]
  exact ⟨rfl, trivial⟩

theorem decodeBytes?_three (hk : k < 64) (hl : l < 64) (hm : m < 64) (hn : n < 64) {rest decoded : Bytes}
    (hrest : decodeBytes? rest = some decoded) :
    decodeBytes? (symbolByte k :: symbolByte l :: symbolByte m :: symbolByte n :: rest) =
      some (UInt8.ofNat (k * 4 + l / 16) :: UInt8.ofNat (l % 16 * 16 + m / 4) :: UInt8.ofNat (m % 4 * 64 + n) ::
        decoded) := by
  have hpad := symbolByte_ne_pad hm
  have hlast := symbolByte_ne_pad hn
  rw [decodeBytes?, value?_symbolByte hk, value?_symbolByte hl, value?_symbolByte hm, value?_symbolByte hn, hrest]
  simp only [Option.bind_eq_bind, Option.bind_some]
  rw [if_neg fun h => hpad h.1, if_neg fun h => hlast h.1]
  rfl

end Groups

/-- A byte is the number that it was cut into parts from. -/
theorem ofNat_of_eq {value : Nat} (byte : UInt8) (h : value = byte.toNat) : UInt8.ofNat value = byte := by
  rw [h, UInt8.ofNat_toNat]

theorem decodeBytes?_encodeChars (bytes : Bytes) : decodeBytes? (Bytes.ofChars (encodeChars bytes)) = some bytes := by
  fun_induction encodeChars bytes with
  | case1 => rfl
  | case2 a =>
    have ha := a.toNat_lt
    rw [ofChars_symbol (by omega), ofChars_symbol (by omega), ofChars_pad, ofChars_pad, Bytes.ofChars_nil,
      decodeBytes?_one (by omega) (by omega) (by omega), ofNat_of_eq a (by omega)]
  | case3 a b =>
    have ha := a.toNat_lt
    have hb := b.toNat_lt
    rw [ofChars_symbol (by omega), ofChars_symbol (by omega), ofChars_symbol (by omega), ofChars_pad, Bytes.ofChars_nil,
      decodeBytes?_two (by omega) (by omega) (by omega) (by omega), ofNat_of_eq a (by omega),
      ofNat_of_eq b (by omega)]
  | case4 a b c rest ih =>
    have ha := a.toNat_lt
    have hb := b.toNat_lt
    have hc := c.toNat_lt
    rw [ofChars_symbol (by omega), ofChars_symbol (by omega), ofChars_symbol (by omega), ofChars_symbol (by omega),
      decodeBytes?_three (by omega) (by omega) (by omega) (by omega) ih, ofNat_of_eq a (by omega),
      ofNat_of_eq b (by omega), ofNat_of_eq c (by omega)]

theorem decode_encode (bytes : Bytes) : decode (Bytes.ofText (encode bytes)) = .ok bytes := by
  rw [decode, encode, Bytes.ofText_eq_ofChars, String.toList_ofList, decodeBytes?_encodeChars]

end ChainClient.Base64
