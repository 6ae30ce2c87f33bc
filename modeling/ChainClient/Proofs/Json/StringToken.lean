import Mathlib.Tactic.IntervalCases
import ChainClient.Json.Document
import ChainClient.Proofs.Text.Utf8

/-!
# Printed strings as tokens

A printed string is one token that gives back its text, whatever quotes, backslashes and control characters the text holds. The scan sees no bare quote before the closing one, and each escaped character resolves to the bytes of the character.
-/

namespace ChainClient.Json

open Bytes

/-- A byte that neither ends a string nor starts an escape nor is refused in one. -/
def PlainByte (byte : UInt8) : Prop := byte ≠ 34 ∧ byte ≠ 92 ∧ ¬ byte < 32

instance (byte : UInt8) : Decidable (PlainByte byte) := inferInstanceAs (Decidable (_ ∧ _))

theorem tokensFrom_inString_plain {run : Bytes} {byte : UInt8} {rest : Bytes} (h : PlainByte byte) :
    tokensFrom (.inString run) (byte :: rest) = tokensFrom (.inString (byte :: run)) rest := by
  obtain ⟨hquote, hslash, hprint⟩ := h
  rw [tokensFrom, if_neg hquote, if_neg hslash, if_neg hprint]

theorem tokensFrom_inString_slash (run : Bytes) (byte : UInt8) (rest : Bytes) :
    tokensFrom (.inString run) (92 :: byte :: rest) = tokensFrom (.inString (byte :: 92 :: run)) rest := by
  rw [tokensFrom, if_neg (by decide), if_pos rfl, tokensFrom]

theorem tokensFrom_inString_append {bytes : Bytes} (h : ∀ byte ∈ bytes, PlainByte byte) (run rest : Bytes) :
    tokensFrom (.inString run) (bytes ++ rest) = tokensFrom (.inString (bytes.reverse ++ run)) rest := by
  induction bytes generalizing run with
  | nil => rfl
  | cons byte bytes ih =>
    obtain ⟨hbyte, htail⟩ := List.forall_mem_cons.1 h
    rw [List.cons_append, tokensFrom_inString_plain hbyte, ih htail]
    simp

/-! ### How a character is escaped -/

/-- A character that stands for itself in a string. -/
def Bare (c : Char) : Prop := c ≠ '"' ∧ c ≠ '\\' ∧ 32 ≤ c.toNat

theorem escapedChar_of_bare {c : Char} (h : Bare c) : escapedChar c = [c] := by
  obtain ⟨hquote, hslash, hprint⟩ := h
  have hcontrol : ∀ d : Char, d.toNat < 32 → c ≠ d := fun d hd heq => by
    subst heq
    omega
  rw [escapedChar, if_neg hquote, if_neg hslash, if_neg (hcontrol _ (by decide)), if_neg (hcontrol _ (by decide)),
    if_neg (hcontrol _ (by decide)), if_neg (hcontrol _ (by decide)), if_neg (hcontrol _ (by decide)),
    if_neg (Nat.not_lt.2 hprint)]

/-- How a character is written inside a string. -/
inductive Escape (c : Char) : Prop where
  | bare (mark : Bare c) (escaped : escapedChar c = [c])
  | letter (letter byte : UInt8) (escaped : ofChars (escapedChar c) = [92, letter]) (short : letter ≠ 117)
      (value : shortEscape? letter = some byte) (encoded : String.utf8EncodeChar c = [byte])
  | number (high low : UInt8) (small : c.toNat < 32) (escaped : ofChars (escapedChar c) = [92, 117, 48, 48, high, low])
      (plainHigh : PlainByte high) (plainLow : PlainByte low)
      (highValue : hexValue? high = some (c.toNat / 16)) (lowValue : hexValue? low = some (c.toNat % 16))

theorem escape_control {c : Char} (h : c.toNat < 32) : Escape c := by
  obtain ⟨n, hn⟩ : ∃ n, c.toNat = n := ⟨_, rfl⟩
  obtain rfl : c = Char.ofNat n := by rw [← hn, Char.ofNat_toNat]
  have hlt : n < 32 := hn ▸ h
  clear hn
  interval_cases n
  case «8» => exact .letter 98 8 rfl (by decide) rfl rfl
  case «9» => exact .letter 116 9 rfl (by decide) rfl rfl
  case «10» => exact .letter 110 10 rfl (by decide) rfl rfl
  case «12» => exact .letter 102 12 rfl (by decide) rfl rfl
  case «13» => exact .letter 114 13 rfl (by decide) rfl rfl
  all_goals exact .number _ _ h rfl (by decide) (by decide) rfl rfl

theorem escape (c : Char) : Escape c := by
  by_cases hsmall : c.toNat < 32
  · exact escape_control hsmall
  · by_cases hquote : c = '"'
    · subst hquote
      exact .letter 34 34 rfl (by decide) rfl rfl
    · by_cases hslash : c = '\\'
      · subst hslash
        exact .letter 92 92 rfl (by decide) rfl rfl
      · have mark : Bare c := ⟨hquote, hslash, Nat.not_lt.1 hsmall⟩
        exact .bare mark (escapedChar_of_bare mark)

theorem mem_encode_bare {c : Char} (h : Bare c) {byte : UInt8}
    (hbyte : byte ∈ String.utf8EncodeChar c) : PlainByte byte := by
  obtain ⟨hquote, hslash, hprint⟩ := h
  rcases Nat.lt_or_ge c.toNat 128 with hascii | hascii
  · rw [encode_ascii hascii, List.mem_singleton] at hbyte
    have hbyteNat : byte.toNat = c.toNat := by
      rw [hbyte, UInt8.toNat_ofNat', Nat.mod_eq_of_lt (by omega)]
    have hne : ∀ d : Char, c ≠ d → byte.toNat ≠ d.toNat := fun d hd heq =>
      hd (by rw [← Char.ofNat_toNat c, ← hbyteNat, heq, Char.ofNat_toNat])
    refine ⟨fun heq => hne '"' hquote (heq ▸ rfl), fun heq => hne '\\' hslash (heq ▸ rfl), fun hlt => ?_⟩
    have : byte.toNat < 32 := hlt
    omega
  · have hge := ge_of_mem_encode hascii hbyte
    refine ⟨fun heq => ?_, fun heq => ?_, fun hlt => ?_⟩
    · exact absurd (heq ▸ hge) (by decide)
    · exact absurd (heq ▸ hge) (by decide)
    · have : byte.toNat < 32 := hlt
      omega

/-! ### The scan of a string -/

theorem tokensFrom_escapedChar (c : Char) (run rest : Bytes) :
    tokensFrom (.inString run) (ofChars (escapedChar c) ++ rest) =
      tokensFrom (.inString ((ofChars (escapedChar c)).reverse ++ run)) rest := by
  rcases escape c with ⟨mark, escaped⟩ | ⟨letter, byte, escaped⟩ | ⟨high, low, _, escaped, plainHigh, plainLow⟩
  · refine tokensFrom_inString_append (fun byte hbyte => ?_) run rest
    rw [escaped, ofChars_cons, ofChars_nil, List.append_nil] at hbyte
    exact mem_encode_bare mark hbyte
  · rw [escaped]
    exact tokensFrom_inString_slash run letter rest
  · have hdigits : ∀ byte ∈ [48, 48, high, low], PlainByte byte :=
      List.forall_mem_cons.2 ⟨by decide, List.forall_mem_cons.2 ⟨by decide, List.forall_mem_cons.2 ⟨plainHigh,
        List.forall_mem_singleton.2 plainLow⟩⟩⟩
    rw [escaped]
    exact (tokensFrom_inString_slash run 117 _).trans (tokensFrom_inString_append hdigits _ rest)

theorem tokensFrom_stringBody (cs : List Char) (run rest : Bytes) :
    tokensFrom (.inString run) (ofChars (cs.flatMap escapedChar) ++ rest) =
      tokensFrom (.inString ((ofChars (cs.flatMap escapedChar)).reverse ++ run)) rest := by
  induction cs generalizing run with
  | nil => rfl
  | cons c cs ih =>
    rw [List.flatMap_cons, ofChars_append, List.append_assoc, tokensFrom_escapedChar, ih]
    simp

/-! ### What the token says -/

theorem stringPieces?_byte {byte : UInt8} (h : byte ≠ 92) (rest : Bytes) :
    stringPieces? (byte :: rest) = (stringPieces? rest).map (.byte byte :: ·) := by
  rw [stringPieces?] <;> simp [h]

theorem pieceBytes?_unit {n : Nat} (h : n < 0xd800) (pieces : List StringPiece) :
    pieceBytes? (.unit n :: pieces) = (pieceBytes? pieces).map (charBytes n ++ ·) := by
  have hhigh : ¬ (0xd800 ≤ n ∧ n < 0xdc00) := by omega
  have hlow : ¬ (0xdc00 ≤ n ∧ n < 0xe000) := by omega
  have hsurrogate : ¬ (0xd800 ≤ n ∧ n < 0xe000) := by omega
  rcases pieces with _ | ⟨_ | low, pieces⟩
  · simp [pieceBytes?, hsurrogate]
  · simp [pieceBytes?, hsurrogate]
  · conv_lhs => rw [pieceBytes?, if_neg hhigh, if_neg hlow]

theorem exists_pieces (c : Char) : ∃ pieces,
    (∀ rest, stringPieces? (ofChars (escapedChar c) ++ rest) = (stringPieces? rest).map (pieces ++ ·)) ∧
    ∀ rest, pieceBytes? (pieces ++ rest) = (pieceBytes? rest).map (String.utf8EncodeChar c ++ ·) := by
  rcases escape c with ⟨mark, escaped⟩ | ⟨letter, byte, escaped, short, value, encoded⟩ |
    ⟨high, low, small, escaped, _, _, highValue, lowValue⟩
  · have hslash : ∀ byte ∈ String.utf8EncodeChar c, byte ≠ 92 := fun byte hbyte => (mem_encode_bare mark hbyte).2.1
    refine ⟨(String.utf8EncodeChar c).map .byte, fun rest => ?_, fun rest => ?_⟩
    · rw [escaped, ofChars_cons, ofChars_nil, List.append_nil]
      generalize String.utf8EncodeChar c = bytes at hslash
      induction bytes with
      | nil => simp
      | cons byte bytes ih =>
        obtain ⟨hbyte, hbytes⟩ := List.forall_mem_cons.1 hslash
        rw [List.cons_append, stringPieces?_byte hbyte, ih hbytes]
        simp [Function.comp_def]
    · generalize String.utf8EncodeChar c = bytes
      induction bytes with
      | nil => simp
      | cons byte bytes ih =>
        rw [List.map_cons, List.cons_append, pieceBytes?, ih]
        simp [Function.comp_def]
  · refine ⟨[.byte byte], fun rest => ?_, fun rest => ?_⟩
    · rw [escaped, List.cons_append, List.singleton_append, stringPieces?]
      · rw [value]
        cases stringPieces? rest <;> rfl
      · rintro a b c d tail hletter -
        exact short hletter
    · rw [encoded, List.singleton_append, pieceBytes?]
      rfl
  · refine ⟨[.unit c.toNat], fun rest => ?_, fun rest => ?_⟩
    · have hzero : hexValue? 48 = some 0 := rfl
      have hvalue : ((0 * 16 + 0) * 16 + c.toNat / 16) * 16 + c.toNat % 16 = c.toNat := by omega
      rw [escaped]
      change stringPieces? (92 :: 117 :: 48 :: 48 :: high :: low :: rest) = _
      rw [stringPieces?, hzero, highValue, lowValue]
      simp only [Option.bind_eq_bind, Option.bind_some, hvalue]
      cases stringPieces? rest <;> rfl
    · rw [List.singleton_append, pieceBytes?_unit (by omega), charBytes, Char.ofNat_toNat]

theorem ofString_stringBody (cs : List Char) :
    Token.ofString (ofChars (cs.flatMap escapedChar)) = .text (some (String.ofList cs)) := by
  have hpieces : ∃ pieces, stringPieces? (ofChars (cs.flatMap escapedChar)) = some pieces ∧
      pieceBytes? pieces = some (ofChars cs) := by
    induction cs with
    | nil => exact ⟨[], rfl, rfl⟩
    | cons c cs ih =>
      obtain ⟨tail, htail, hbytes⟩ := ih
      obtain ⟨pieces, hread, hencode⟩ := exists_pieces c
      refine ⟨pieces ++ tail, ?_, ?_⟩
      · rw [List.flatMap_cons, ofChars_append, hread, htail, Option.map_some]
      · rw [hencode, hbytes, Option.map_some, ofChars_cons]
  obtain ⟨pieces, hread, hbytes⟩ := hpieces
  simp only [Token.ofString, hread, hbytes, Option.bind_eq_bind, Option.bind_some, toText?_ofChars]

/-- A printed string is one token, and the scan goes on behind it. -/
theorem tokensFrom_stringChars (text : String) (rest : Bytes) :
    tokensFrom .between (ofChars (stringChars text) ++ rest) = .text (some text) :: tokensFrom .between rest := by
  have hopen : ∀ bytes, tokensFrom .between (34 :: bytes) = tokensFrom (.inString []) bytes := fun bytes => rfl
  have hclose : ∀ run, tokensFrom (.inString run) (34 :: rest) =
      Token.ofString run.reverse :: tokensFrom .between rest := fun run => rfl
  have hquote : String.utf8EncodeChar '"' = [34] := rfl
  rw [stringChars, ofChars_cons, ofChars_append, hquote, List.singleton_append, List.cons_append, hopen,
    List.append_assoc, tokensFrom_stringBody, List.append_nil, ofChars_cons, hquote, ofChars_nil]
  rw [List.append_nil, List.singleton_append, hclose, List.reverse_reverse, ofString_stringBody, String.ofList_toList]

end ChainClient.Json
