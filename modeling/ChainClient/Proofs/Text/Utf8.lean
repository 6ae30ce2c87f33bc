import Mathlib.Tactic.SplitIfs
import ChainClient.Bytes

/-!
# Characters as bytes

The bytes of a text are those of its characters one after the other. An ASCII character is its own byte, and every byte of another character is above all ASCII bytes, so a scan for ASCII marks never stops inside a character. The order of texts is the order of their bytes.
-/

namespace ChainClient.Bytes

def ofChars (cs : List Char) : Bytes := cs.flatMap String.utf8EncodeChar

@[simp] theorem ofChars_nil : ofChars [] = [] := rfl

@[simp] theorem ofChars_cons (c : Char) (cs : List Char) : ofChars (c :: cs) = String.utf8EncodeChar c ++ ofChars cs :=
  rfl

@[simp] theorem ofChars_append (left right : List Char) : ofChars (left ++ right) = ofChars left ++ ofChars right :=
  List.flatMap_append

theorem ofText_eq_ofChars (text : String) : ofText text = ofChars text.toList := by
  have hbytes : text.toByteArray = (ofChars text.toList).toByteArray := String.utf8Encode_toList.symm
  change text.toByteArray.data.toList = _
  rw [hbytes, List.data_toByteArray]

theorem toText?_ofChars (cs : List Char) : toText? (ofChars cs) = some (String.ofList cs) := by
  have h := toText?_ofText (String.ofList cs)
  rwa [ofText_eq_ofChars, String.toList_ofList] at h

/-! ### Single characters -/

theorem encode_ascii {c : Char} (h : c.toNat < 128) : String.utf8EncodeChar c = [UInt8.ofNat c.toNat] := by
  have hle : c.val.toNat ≤ 0x7f := Nat.le_of_lt_succ h
  rw [String.utf8EncodeChar, if_pos hle]
  rfl

theorem ge_of_mem_encode {c : Char} (h : 128 ≤ c.toNat) {byte : UInt8} (hbyte : byte ∈ String.utf8EncodeChar c) :
    128 ≤ byte.toNat := by
  have hgt : ¬ c.val.toNat ≤ 0x7f := Nat.not_le.2 h
  rw [String.utf8EncodeChar, if_neg hgt] at hbyte
  split at hbyte
  · simp only [List.mem_cons, List.not_mem_nil, or_false] at hbyte
    rcases hbyte with rfl | rfl <;> rw [UInt8.toNat_ofNat'] <;> omega
  · split at hbyte
    · simp only [List.mem_cons, List.not_mem_nil, or_false] at hbyte
      rcases hbyte with rfl | rfl | rfl <;> rw [UInt8.toNat_ofNat'] <;> omega
    · simp only [List.mem_cons, List.not_mem_nil, or_false] at hbyte
      rcases hbyte with rfl | rfl | rfl | rfl <;> rw [UInt8.toNat_ofNat'] <;> omega

theorem ofChars_ascii {cs : List Char} (h : ∀ c ∈ cs, c.toNat < 128) :
    ofChars cs = cs.map fun c => UInt8.ofNat c.toNat := by
  induction cs with
  | nil => rfl
  | cons c cs ih =>
    obtain ⟨hc, hcs⟩ := List.forall_mem_cons.1 h
    rw [ofChars_cons, encode_ascii hc, ih hcs, List.map_cons, List.singleton_append]

theorem map_ofNat_ofChars {cs : List Char} (h : ∀ c ∈ cs, c.toNat < 128) :
    (ofChars cs).map (fun byte => Char.ofNat byte.toNat) = cs := by
  rw [ofChars_ascii h, List.map_map]
  refine (List.map_congr_left fun c hc => ?_).trans (List.map_id' cs)
  have hlt : c.toNat < 256 := Nat.lt_trans (h c hc) (by decide)
  simp only [Function.comp_apply, UInt8.toNat_ofNat', Nat.mod_eq_of_lt hlt, Char.ofNat_toNat]

/-! ### Order -/

/-- A character with a longer encoding is greater, and so is its first byte. -/
theorem encode_append_lt {c d : Char} (h : c < d) (front back : Bytes) :
    String.utf8EncodeChar c ++ front < String.utf8EncodeChar d ++ back := by
  have hlt : c.val.toNat < d.val.toNat := h
  have hmax : d.val.toNat < 0x110000 := d.valid.elim (fun hlow => Nat.lt_trans hlow (by decide)) And.right
  simp only [String.utf8EncodeChar]
  split_ifs <;>
    simp (disch := omega) only [List.cons_append, List.nil_append, List.cons_lt_cons_iff, UInt8.lt_iff_toNat_lt,
      ← UInt8.toNat_inj, UInt8.toNat_ofNat', Nat.mod_eq_of_lt] <;>
    omega

theorem ofChars_lt {left right : List Char} (h : left < right) : ofChars left < ofChars right := by
  induction h with
  | @nil c cs =>
    obtain ⟨byte, rest, hencode⟩ := List.exists_cons_of_ne_nil (String.utf8EncodeChar_ne_nil (c := c))
    rw [ofChars_nil, ofChars_cons, hencode]
    exact List.nil_lt_cons _ _
  | rel hlt => exact encode_append_lt hlt _ _
  | cons _ ih => exact List.append_left_lt ih

theorem ofText_lt_iff {left right : String} : ofText left < ofText right ↔ left < right := by
  rw [ofText_eq_ofChars, ofText_eq_ofChars, String.lt_iff]
  refine ⟨fun h => ?_, ofChars_lt⟩
  rcases Std.lt_trichotomy left.toList right.toList with hlt | heq | hgt
  · exact hlt
  · exact absurd h (heq ▸ List.lt_irrefl _)
  · exact absurd h (List.lt_asymm (ofChars_lt hgt))

end ChainClient.Bytes
