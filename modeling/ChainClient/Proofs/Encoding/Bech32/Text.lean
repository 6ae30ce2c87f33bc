import ChainClient.Encoding.Bech32.Basic
import ChainClient.Proofs.Encoding.Bech32.Checksum
import ChainClient.Proofs.Encoding.Bech32.Regrouping

/-!
# Bech32 text read back

The text of bytes after a lower-case human readable part is read as this part and these bytes. No symbol is written as the separator, so the last separator is the one that the writer put, and no symbol is written in upper case.
-/

namespace ChainClient.Bech32

theorem splitLast_eq_none {cs : List Char} (h : separator ∉ cs) : splitLast cs = none := by
  induction cs with
  | nil => rfl
  | cons c cs ih =>
    rw [List.mem_cons, not_or] at h
    rw [splitLast, ih h.2, if_neg (Ne.symm h.1)]

theorem splitLast_append {after : List Char} (h : separator ∉ after) (before : List Char) :
    splitLast (before ++ separator :: after) = some (before, after) := by
  induction before with
  | nil => simp [splitLast, splitLast_eq_none h]
  | cons c before ih => rw [List.cons_append, splitLast, ih]

theorem separator_notMem_map_char (symbols : List Symbol) : separator ∉ symbols.map Symbol.char := by
  intro hmem
  obtain ⟨s, -, hs⟩ := List.mem_map.1 hmem
  exact char_ne_separator s hs

theorem mapM_ofChar?_map_char (symbols : List Symbol) :
    (symbols.map Symbol.char).mapM (fun c => Symbol.ofChar? c.toLower) = some symbols := by
  induction symbols with
  | nil => rfl
  | cons s symbols ih =>
    rw [List.map_cons, List.mapM_cons, ofChar?_char, ih]
    rfl

/-- A human readable part that the writer uses as it stands. -/
structure LowerHrp (hrp : List Char) : Prop where
  valid : validHrp hrp
  lower : hrp.all (!·.isUpper)

theorem LowerHrp.oneCase_append {hrp : List Char} (h : LowerHrp hrp) (symbols : List Symbol) :
    oneCase (hrp ++ separator :: symbols.map Symbol.char) := by
  have hupper : (hrp ++ separator :: symbols.map Symbol.char).any Char.isUpper = false := by
    rw [List.any_eq_false]
    intro c hc
    rcases List.mem_append.1 hc with hhrp | htail
    · simpa using List.all_eq_true.1 h.lower c hhrp
    · rcases List.mem_cons.1 htail with rfl | hsymbol
      · decide
      · obtain ⟨s, -, rfl⟩ := List.mem_map.1 hsymbol
        rw [isUpper_char s]
        exact Bool.false_ne_true
  rw [oneCase, hupper, Bool.and_false, Bool.not_false]

theorem LowerHrp.lower_eq {hrp : List Char} (h : LowerHrp hrp) : Bech32.lower hrp = hrp := by
  refine (List.map_congr_left fun c hc => ?_).trans (List.map_id' hrp)
  have hupper : c.isUpper = false := by simpa using List.all_eq_true.1 h.lower c hc
  refine dif_neg fun hcase => ?_
  have hcontra : c.isUpper = true := decide_eq_true hcase
  rw [hupper] at hcontra
  exact Bool.false_ne_true hcontra

theorem parts?_append {hrp : List Char} (h : LowerHrp hrp) {symbols : List Symbol} (hlength : 6 ≤ symbols.length) :
    parts? (hrp ++ separator :: symbols.map Symbol.char) = some (hrp, symbols) := by
  rw [parts?, splitLast_append (separator_notMem_map_char symbols)]
  simp only [bind, Option.bind_some, h.valid, h.oneCase_append, and_self, if_true, mapM_ofChar?_map_char, hlength,
    h.lower_eq]

theorem decode_assemble {hrp : List Char} (h : LowerHrp hrp) (bytes : Bytes) :
    decode (String.ofList (assemble hrp (symbolsOfBytes bytes))) = .ok (String.ofList hrp, bytes) := by
  have hlength : 6 ≤ (symbolsOfBytes bytes ++ checksum hrp (symbolsOfBytes bytes)).length := by
    rw [List.length_append, length_checksum]
    omega
  have hdata : (symbolsOfBytes bytes ++ checksum hrp (symbolsOfBytes bytes)).take
      ((symbolsOfBytes bytes ++ checksum hrp (symbolsOfBytes bytes)).length - 6) = symbolsOfBytes bytes := by
    rw [List.length_append, length_checksum, Nat.add_sub_cancel, List.take_left]
  rw [decode, String.toList_ofList, assemble, parts?_append h hlength]
  simp only [residue_checksum, if_true, hdata, bytesOfSymbols?_symbolsOfBytes]

end ChainClient.Bech32
