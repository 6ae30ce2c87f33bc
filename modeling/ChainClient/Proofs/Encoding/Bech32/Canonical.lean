import Mathlib.Data.List.Basic
import ChainClient.Proofs.Encoding.Bech32.Text
import ChainClient.Proofs.Text.LetterCase

/-!
# The texts that are accepted

A reader looks at the case of a text once, when it asks that no two letters differ in it; from there on it reads the text in lower case. A text in lower case is accepted as a part and bytes only if it is the one that is written for them: its last six symbols complete it, the others stand for the bytes. So the texts that are read as a part and bytes are two, the written one and the same in upper case.

Of two texts written after one part, none is the other with one character changed: the change would fall on one symbol, and the residue of a text tells one symbol from another.
-/

namespace ChainClient.Bech32

/-! ### Letters -/

theorem isHrpChar_toLower (c : Char) : isHrpChar c.toLower = isHrpChar c := by
  induction c using Text.letterCase_induction with
  | ascii code hcode =>
    revert code
    decide
  | caseless c _ _ hlower _ => rw [hlower]

theorem toLower_eq_separator_iff (c : Char) : c.toLower = separator ↔ c = separator := by
  induction c using Text.letterCase_induction with
  | ascii code hcode =>
    revert code
    decide
  | caseless c _ _ hlower _ => rw [hlower]

theorem lower_lower (cs : List Char) : lower (lower cs) = lower cs := by
  rw [lower, lower, List.map_map]
  exact List.map_congr_left fun c _ => Text.toLower_toLower c

theorem any_isUpper_lower (cs : List Char) : (lower cs).any Char.isUpper = false := by
  rw [lower, List.any_map, List.any_eq_false]
  intro c _
  rw [Function.comp_apply, Text.isUpper_toLower]
  exact Bool.false_ne_true

theorem oneCase_lower (cs : List Char) : oneCase (lower cs) := by
  rw [oneCase, any_isUpper_lower, Bool.and_false, Bool.not_false]

theorem lower_eq_of_any_isUpper {cs : List Char} (h : cs.any Char.isUpper = false) : lower cs = cs := by
  refine (List.map_congr_left fun c hc => ?_).trans (List.map_id' cs)
  exact Text.toLower_of_not_isUpper (Bool.eq_false_iff.2 (List.any_eq_false.1 h c hc))

/-- The characters of a text in upper case. -/
def upper (cs : List Char) : List Char := cs.map Char.toUpper

theorem any_isLower_upper (cs : List Char) : (upper cs).any Char.isLower = false := by
  rw [upper, List.any_map, List.any_eq_false]
  intro c _
  rw [Function.comp_apply, Text.isLower_toUpper]
  exact Bool.false_ne_true

theorem upper_eq_of_any_isLower {cs : List Char} (h : cs.any Char.isLower = false) : upper cs = cs := by
  refine (List.map_congr_left fun c hc => ?_).trans (List.map_id' cs)
  exact Text.toUpper_of_not_isLower (Bool.eq_false_iff.2 (List.any_eq_false.1 h c hc))

theorem lower_upper (cs : List Char) : lower (upper cs) = lower cs := by
  rw [lower, upper, List.map_map]
  exact List.map_congr_left fun c _ => Text.toLower_toUpper c

theorem upper_lower (cs : List Char) : upper (lower cs) = upper cs := by
  rw [lower, upper, List.map_map]
  exact List.map_congr_left fun c _ => Text.toUpper_toLower c

/-- A text in one case is in lower case or in upper case. -/
theorem oneCase_and_lower_eq_iff {text written : List Char} (hwritten : lower written = written) :
    (oneCase text ∧ lower text = written) ↔ text = written ∨ text = upper written := by
  constructor
  · rintro ⟨hcase, rfl⟩
    rw [oneCase, Bool.not_eq_true', Bool.and_eq_false_iff] at hcase
    rcases hcase with hlower | hupper
    · exact Or.inr ((upper_lower text).trans (upper_eq_of_any_isLower hlower)).symm
    · exact Or.inl (lower_eq_of_any_isUpper hupper).symm
  · rintro (rfl | rfl)
    · exact ⟨hwritten ▸ oneCase_lower text, hwritten⟩
    · refine ⟨?_, (lower_upper written).trans hwritten⟩
      rw [oneCase, any_isLower_upper, Bool.false_and, Bool.not_false]

/-! ### Reading in lower case -/

theorem splitLast_lower (text : List Char) :
    splitLast (lower text) = (splitLast text).map fun (before, after) => (lower before, lower after) := by
  induction text with
  | nil => rfl
  | cons c text ih =>
    have hcons : lower (c :: text) = c.toLower :: lower text := rfl
    rw [hcons, splitLast, splitLast, ih]
    cases splitLast text with
    | some parts => rfl
    | none =>
      by_cases hc : c = separator
      · rw [if_pos hc, if_pos ((toLower_eq_separator_iff c).2 hc)]
        rfl
      · rw [if_neg hc, if_neg (mt (toLower_eq_separator_iff c).1 hc)]
        rfl

theorem validHrp_lower {hrp : List Char} (h : oneCase hrp) : validHrp (lower hrp) = validHrp hrp := by
  have hchars : (lower hrp).all isHrpChar = hrp.all isHrpChar := by
    rw [lower, List.all_map]
    exact congrArg _ (funext isHrpChar_toLower)
  have hlength : (lower hrp).length = hrp.length := List.length_map _
  rw [validHrp, validHrp, hchars, hlength, oneCase_lower, h]

theorem mapM_ofChar?_lower (cs : List Char) :
    (lower cs).mapM (fun c => Symbol.ofChar? c.toLower) = cs.mapM fun c => Symbol.ofChar? c.toLower := by
  induction cs with
  | nil => rfl
  | cons c cs ih =>
    have hcons : lower (c :: cs) = c.toLower :: lower cs := rfl
    rw [hcons, List.mapM_cons, List.mapM_cons, ih, Text.toLower_toLower]

theorem eq_append_of_splitLast {text before after : List Char} (h : splitLast text = some (before, after)) :
    text = before ++ separator :: after := by
  induction text generalizing before after with
  | nil => exact absurd h (by simp [splitLast])
  | cons c text ih =>
    rw [splitLast] at h
    cases hsplit : splitLast text with
    | some parts =>
      rw [hsplit] at h
      cases h
      rw [List.cons_append, ← ih hsplit]
    | none =>
      rw [hsplit] at h
      by_cases hc : c = separator
      · rw [if_pos hc] at h
        cases h
        rw [hc, List.nil_append]
      · exact absurd h (by simp [hc])

theorem oneCase_left {before after : List Char} (h : oneCase (before ++ after)) : oneCase before := by
  rw [oneCase, List.any_append, List.any_append] at h
  rw [oneCase]
  cases hlower : before.any Char.isLower with
  | false => rfl
  | true =>
    cases hupper : before.any Char.isUpper with
    | false => rfl
    | true => simp [hlower, hupper] at h

theorem parts?_lower {text : List Char} (h : oneCase text) : parts? (lower text) = parts? text := by
  rw [parts?, parts?, splitLast_lower]
  cases hsplit : splitLast text with
  | none => rfl
  | some parts =>
    obtain ⟨before, after⟩ := parts
    have hbefore : oneCase before := oneCase_left (eq_append_of_splitLast hsplit ▸ h)
    simp only [bind, Option.map_some, Option.bind_some, validHrp_lower hbefore, oneCase_lower, h, mapM_ofChar?_lower,
      lower_lower]

theorem decode_lower {text : String} (h : oneCase text.toList) :
    decode (String.ofList (lower text.toList)) = decode text := by
  rw [decode, decode, String.toList_ofList, parts?_lower h]

/-! ### What a reader accepts -/

theorem lower_eq_map_char {cs : List Char} {symbols : List Symbol}
    (h : cs.mapM (fun c => Symbol.ofChar? c.toLower) = some symbols) : lower cs = symbols.map Symbol.char := by
  induction cs generalizing symbols with
  | nil =>
    cases h
    rfl
  | cons c cs ih =>
    rw [List.mapM_cons] at h
    obtain ⟨s, hs, hrest⟩ := Option.bind_eq_some_iff.1 h
    obtain ⟨rest, hmap, hsymbols⟩ := Option.bind_eq_some_iff.1 hrest
    cases hsymbols
    have hcons : lower (c :: cs) = c.toLower :: lower cs := rfl
    rw [hcons, ih hmap, eq_char_of_ofChar? hs, List.map_cons]

/-- What stands behind the parts that a reader finds in a text. -/
structure Reads (text hrp : List Char) (symbols : List Symbol) : Prop where
  lowerHrp : LowerHrp hrp
  oneCase : oneCase text
  lower_text : lower text = hrp ++ separator :: symbols.map Symbol.char
  separator_mem : separator ∈ text
  six_le_length : 6 ≤ symbols.length

theorem reads_of_parts? {text hrp : List Char} {symbols : List Symbol} (h : parts? text = some (hrp, symbols)) :
    Reads text hrp symbols := by
  obtain ⟨⟨before, after⟩, hsplit, hrest⟩ := Option.bind_eq_some_iff.1 h
  dsimp only at hrest
  have htext := eq_append_of_splitLast hsplit
  by_cases hvalid : validHrp before ∧ Bech32.oneCase text
  · rw [if_pos hvalid] at hrest
    obtain ⟨found, hfound, hlength⟩ := Option.bind_eq_some_iff.1 hrest
    by_cases hsix : 6 ≤ found.length
    · rw [if_pos hsix] at hlength
      cases hlength
      have hbefore : Bech32.oneCase before := oneCase_left (htext ▸ hvalid.2)
      have hlowerHrp : LowerHrp (lower before) := by
        refine ⟨(validHrp_lower hbefore).trans hvalid.1, ?_⟩
        rw [List.all_eq_not_any_not]
        simpa using any_isUpper_lower before
      refine ⟨hlowerHrp, hvalid.2, ?_, ?_, hsix⟩
      · have hseparator : separator.toLower = separator := by decide
        rw [htext, ← lower_eq_map_char hfound, lower, List.map_append, List.map_cons, hseparator]
        rfl
      · rw [htext]
        exact List.mem_append_right _ List.mem_cons_self
    · exact absurd hlength (by simp [hsix])
  · exact absurd hrest (by simp [hvalid])

/-- The symbols of a text that is complete are those written for its bytes, and then their checksum. -/
theorem symbols_eq_of_residue {hrp : List Char} {symbols : List Symbol} {bytes : Bytes} (hlength : 6 ≤ symbols.length)
    (hresidue : residue (expand hrp ++ symbols) = bech32Constant)
    (hbytes : bytesOfSymbols? (symbols.take (symbols.length - 6)) = some bytes) :
    symbols = symbolsOfBytes bytes ++ checksum hrp (symbolsOfBytes bytes) := by
  have hcut := List.take_append_drop (symbols.length - 6) symbols
  have htail : (symbols.drop (symbols.length - 6)).length = 6 := by
    rw [List.length_drop]
    omega
  rw [symbolsOfBytes_of_bytesOfSymbols? hbytes]
  rw [← hcut] at hresidue
  rw [← eq_checksum_of_residue htail hresidue, hcut]

theorem reads_of_decode {text hrp : String} {bytes : Bytes} (h : decode text = .ok (hrp, bytes)) :
    Reads text.toList hrp.toList (symbolsOfBytes bytes ++ checksum hrp.toList (symbolsOfBytes bytes)) := by
  rw [decode] at h
  cases hparts : parts? text.toList with
  | none =>
    rw [hparts] at h
    exact absurd h (by simp)
  | some parts =>
    obtain ⟨found, symbols⟩ := parts
    have hreads := reads_of_parts? hparts
    simp only [hparts] at h
    by_cases hresidue : residue (expand found ++ symbols) = bech32Constant
    · rw [if_pos hresidue] at h
      cases hbytes : bytesOfSymbols? (symbols.take (symbols.length - 6)) with
      | none =>
        rw [hbytes] at h
        exact absurd h (by simp)
      | some read =>
        rw [hbytes] at h
        cases h
        rw [String.toList_ofList, ← symbols_eq_of_residue hreads.six_le_length hresidue hbytes]
        exact hreads
    · rw [if_neg hresidue] at h
      by_cases hvariant : residue (expand found ++ symbols) = bech32mConstant
      · exact absurd h (by simp [hvariant])
      · exact absurd h (by simp [hvariant])

theorem LowerHrp.lower_assemble {hrp : List Char} (h : LowerHrp hrp) (data : List Symbol) :
    Bech32.lower (assemble hrp data) = assemble hrp data := by
  have hseparator : separator.toLower = separator := by decide
  have hsymbols : ∀ symbols : List Symbol, Bech32.lower (symbols.map Symbol.char) = symbols.map Symbol.char := by
    intro symbols
    refine lower_eq_of_any_isUpper ?_
    rw [List.any_map, List.any_eq_false]
    intro s _
    rw [Function.comp_apply, isUpper_char]
    exact Bool.false_ne_true
  calc Bech32.lower (assemble hrp data)
    _ = Bech32.lower hrp ++ separator.toLower :: Bech32.lower ((data ++ checksum hrp data).map Symbol.char) :=
      List.map_append
    _ = assemble hrp data := by rw [h.lower_eq, hseparator, hsymbols, assemble]

/-- The texts that are read as a part and bytes are the one written for them and the same in upper case. -/
theorem decode_eq_ok_iff {text hrp : String} (hhrp : LowerHrp hrp.toList) (bytes : Bytes) :
    decode text = .ok (hrp, bytes) ↔ text.toList = assemble hrp.toList (symbolsOfBytes bytes) ∨
      text.toList = upper (assemble hrp.toList (symbolsOfBytes bytes)) := by
  rw [← oneCase_and_lower_eq_iff (hhrp.lower_assemble _)]
  constructor
  · intro h
    have hreads := reads_of_decode h
    exact ⟨hreads.oneCase, hreads.lower_text⟩
  · rintro ⟨hcase, hlower⟩
    rw [← decode_lower hcase, hlower, decode_assemble hhrp, String.ofList_toList]

/-! ### One changed character -/

theorem char_injective : Function.Injective Symbol.char := by
  intro s t h
  have hread := ofChar?_char s
  rw [h, ofChar?_char] at hread
  exact (Option.some.inj hread).symm

/-- Two texts that begin alike can differ in one character only behind what they share. -/
theorem exists_front_of_changed {shared xs ys before after : List Char} {c d : Char} (hne : c ≠ d)
    (hxs : shared ++ xs = before ++ c :: after) (hys : shared ++ ys = before ++ d :: after) :
    ∃ front, xs = front ++ c :: after ∧ ys = front ++ d :: after := by
  induction shared generalizing before with
  | nil => exact ⟨before, hxs, hys⟩
  | cons a shared ih =>
    cases before with
    | nil =>
      have hc : a = c := (List.cons.inj hxs).1
      have hd : a = d := (List.cons.inj hys).1
      exact absurd (hc.symm.trans hd) hne
    | cons b before => exact ih (List.cons.inj hxs).2 (List.cons.inj hys).2

/-- Changing one character of a written text does not give another text written after the same part. -/
theorem eq_of_assemble_eq {hrp before after : List Char} {data others : List Symbol} {c d : Char}
    (hdata : assemble hrp data = before ++ c :: after) (hothers : assemble hrp others = before ++ d :: after) :
    c = d := by
  by_contra hne
  rw [assemble, List.append_cons] at hdata hothers
  obtain ⟨front, hxs, hys⟩ := exists_front_of_changed hne hdata hothers
  -- Both symbol strings are complete behind the same part, and they agree around one symbol.
  obtain ⟨sfront, srest, hs, hsfront, hsrest⟩ := List.map_eq_append_iff.1 hxs
  obtain ⟨tfront, trest, ht, htfront, htrest⟩ := List.map_eq_append_iff.1 hys
  obtain ⟨s, safter, rfl, rfl, hsafter⟩ := List.map_eq_cons_iff.1 hsrest
  obtain ⟨t, tafter, rfl, rfl, htafter⟩ := List.map_eq_cons_iff.1 htrest
  have hfront : sfront = tfront := List.map_injective_iff.2 char_injective (hsfront.trans htfront.symm)
  have hafter : safter = tafter := List.map_injective_iff.2 char_injective (hsafter.trans htafter.symm)
  have hresidue := (residue_checksum hrp data).trans (residue_checksum hrp others).symm
  rw [hs, ht, hfront, hafter, ← List.append_assoc, ← List.append_assoc] at hresidue
  exact hne (congrArg Symbol.char (eq_of_residue_eq hresidue))

end ChainClient.Bech32
