import ChainClient.Proofs.Json.Integer
import ChainClient.Proofs.Json.Plain
import ChainClient.Proofs.Json.StringToken

/-!
# Printed values as tokens

The text of a plain value is cut into the tokens one expects: one for each scalar and each mark, in the order of the text. Literals and numbers end where the next mark begins, which is why the statements carry what may follow.
-/

namespace ChainClient.Json

open Bytes

mutual

/-- The tokens of a value. -/
def lexemes : Json → List Token
  | null => [.word .null]
  | bool value => [.word (.bool value)]
  | int value => [.word (.int value)]
  | double value => [.word (.double value)]
  | str text => [.text (some text)]
  | arr items => .openArray :: (itemsLexemes items ++ [.closeArray])
  | obj fields => .openObject :: (fieldsLexemes fields ++ [.closeObject])

def itemsLexemes : List Json → List Token
  | [] => []
  | [item] => lexemes item
  | item :: rest => lexemes item ++ .comma :: itemsLexemes rest

def fieldsLexemes : List (String × Json) → List Token
  | [] => []
  | [(key, value)] => .text (some key) :: .colon :: lexemes value
  | (key, value) :: rest => .text (some key) :: .colon :: (lexemes value ++ .comma :: fieldsLexemes rest)

end

/-! ### Words -/

/-- A character of a literal or a number. -/
def IsWordChar (c : Char) : Prop := c.toNat < 128 ∧ isWordByte (UInt8.ofNat c.toNat) = true

/-- What follows cannot continue a word. -/
def Closed (rest : Bytes) : Prop := ∀ byte ∈ rest.head?, isWordByte byte = false

theorem closed_nil : Closed [] := by simp [Closed]

theorem closed_cons {byte : UInt8} (h : isWordByte byte = false) (rest : Bytes) : Closed (byte :: rest) := by
  simpa [Closed] using h

theorem tokensFrom_inWord {run rest : Bytes} (h : Closed rest) :
    tokensFrom (.inWord run) rest = Token.ofWord run.reverse :: tokensFrom .between rest := by
  cases rest with
  | nil => rfl
  | cons byte rest =>
    have hbyte : ¬ isWordByte byte = true := by simpa [Closed] using h
    rw [tokensFrom, if_neg hbyte]
    conv_rhs => rw [tokensFrom, if_neg hbyte]

theorem tokensFrom_word {cs : List Char} (hne : cs ≠ []) (hword : ∀ c ∈ cs, IsWordChar c) {rest : Bytes}
    (hrest : Closed rest) :
    tokensFrom .between (ofChars cs ++ rest) = Token.ofWord (ofChars cs) :: tokensFrom .between rest := by
  have hrun : ∀ (cs : List Char) (run : Bytes), (∀ c ∈ cs, IsWordChar c) →
      tokensFrom (.inWord run) (ofChars cs ++ rest) = tokensFrom (.inWord ((ofChars cs).reverse ++ run)) rest := by
    intro cs
    induction cs with
    | nil => exact fun run _ => rfl
    | cons c cs ih =>
      intro run h
      obtain ⟨hc, hcs⟩ := List.forall_mem_cons.1 h
      rw [ofChars_cons, encode_ascii hc.1, List.singleton_append, List.cons_append, tokensFrom, if_pos hc.2, ih _ hcs]
      simp
  obtain ⟨c, cs, rfl⟩ := List.exists_cons_of_ne_nil hne
  obtain ⟨hc, hcs⟩ := List.forall_mem_cons.1 hword
  rw [ofChars_cons, encode_ascii hc.1, List.singleton_append, List.cons_append, tokensFrom, if_pos hc.2, hrun cs _ hcs,
    tokensFrom_inWord hrest]
  simp

theorem isWordChar_of_isDigit {c : Char} (h : c.isDigit) : IsWordChar c := by
  simp only [Char.isDigit, Bool.and_eq_true, decide_eq_true_eq, ge_iff_le, UInt32.le_iff_toNat_le] at h
  obtain ⟨hlow, hhigh⟩ := h
  have hlow' : 48 ≤ c.toNat := hlow
  have hhigh' : c.toNat ≤ 57 := hhigh
  have hbyte : (UInt8.ofNat c.toNat).toNat = c.toNat := by
    rw [UInt8.toNat_ofNat', Nat.mod_eq_of_lt (by omega)]
  refine ⟨by omega, ?_⟩
  simp [isWordByte, hbyte, hlow', hhigh']

theorem isWordChar_of_mem_integer {n : Int} {c : Char} (h : c ∈ Text.integer n) : IsWordChar c := by
  rcases Text.isDigit_or_minus_of_mem_integer h with hdigit | rfl
  · exact isWordChar_of_isDigit hdigit
  · exact ⟨by decide, by decide⟩

theorem integer_ne_nil (n : Int) : Text.integer n ≠ [] := by
  cases n with
  | ofNat n => exact Text.digits_ne_nil n
  | negSucc n => exact List.cons_ne_nil _ _

theorem ofWord_integer {n : Int} (hlow : -(2 ^ 63) ≤ n) (hhigh : n < 2 ^ 64) :
    Token.ofWord (ofChars (Text.integer n)) = .word (.int n) := by
  have hcs := map_ofNat_ofChars fun c (hc : c ∈ Text.integer n) => (isWordChar_of_mem_integer hc).1
  have hletter : ∀ c cs, ¬ (c.isDigit ∨ c = '-') → Text.integer n ≠ c :: cs := by
    intro c cs hc heq
    exact hc (Text.isDigit_or_minus_of_mem_integer (heq ▸ List.mem_cons_self))
  rw [Token.ofWord]
  simp only [hcs, if_neg (hletter 'n' _ (by decide)), if_neg (hletter 't' _ (by decide)),
    if_neg (hletter 'f' _ (by decide)), Numeral.parse?_integer hlow hhigh]

/-! ### Values -/

/-- The scan of a value, whatever follows it. -/
def Scans (value : Json) : Prop :=
  ∀ rest, Closed rest → tokensFrom .between (ofChars value.chars ++ rest) = value.lexemes ++ tokensFrom .between rest

theorem tokensFrom_mark {c : Char} {byte : UInt8} (token : Token) (hc : String.utf8EncodeChar c = [byte])
    (h : ∀ rest, tokensFrom .between (byte :: rest) = token :: tokensFrom .between rest) (cs : List Char) (rest : Bytes) :
    tokensFrom .between (ofChars (c :: cs) ++ rest) = token :: tokensFrom .between (ofChars cs ++ rest) := by
  rw [ofChars_cons, hc, List.singleton_append, List.cons_append, h]

theorem closed_mark (c : Char) (byte : UInt8) (hc : String.utf8EncodeChar c = [byte]) (hbyte : isWordByte byte = false)
    (cs : List Char) (rest : Bytes) : Closed (ofChars (c :: cs) ++ rest) := by
  rw [ofChars_cons, hc, List.singleton_append, List.cons_append]
  exact closed_cons hbyte _

theorem scans_items {items : List Json} (h : ∀ item ∈ items, Scans item) {rest : Bytes} (hrest : Closed rest) :
    tokensFrom .between (ofChars (itemsChars items) ++ rest) = itemsLexemes items ++ tokensFrom .between rest := by
  induction items with
  | nil => rfl
  | cons item items ih =>
    obtain ⟨hitem, hitems⟩ := List.forall_mem_cons.1 h
    cases items with
    | nil => exact hitem rest hrest
    | cons next items =>
      have hchars : itemsChars (item :: next :: items) = item.chars ++ ',' :: itemsChars (next :: items) := rfl
      have hlexemes : itemsLexemes (item :: next :: items) = item.lexemes ++ .comma :: itemsLexemes (next :: items) := rfl
      rw [hchars, hlexemes, ofChars_append, List.append_assoc, hitem _ (closed_mark ',' 44 rfl (by decide) _ _),
        tokensFrom_mark .comma rfl (fun _ => rfl), ih hitems, List.append_assoc, List.cons_append]

theorem scans_fields {fields : List (String × Json)} (h : ∀ field ∈ fields, Scans field.2) {rest : Bytes}
    (hrest : Closed rest) :
    tokensFrom .between (ofChars (fieldsChars fields) ++ rest) = fieldsLexemes fields ++ tokensFrom .between rest := by
  induction fields with
  | nil => rfl
  | cons field fields ih =>
    obtain ⟨key, value⟩ := field
    obtain ⟨hvalue, hfields⟩ := List.forall_mem_cons.1 h
    cases fields with
    | nil =>
      have hchars : fieldsChars [(key, value)] = stringChars key ++ ':' :: value.chars := rfl
      rw [hchars, ofChars_append, List.append_assoc, tokensFrom_stringChars, tokensFrom_mark .colon rfl (fun _ => rfl),
        hvalue rest hrest]
      rfl
    | cons next fields =>
      have hchars : fieldsChars ((key, value) :: next :: fields) =
          stringChars key ++ ':' :: (value.chars ++ ',' :: fieldsChars (next :: fields)) := rfl
      have hlexemes : fieldsLexemes ((key, value) :: next :: fields) =
          .text (some key) :: .colon :: (value.lexemes ++ .comma :: fieldsLexemes (next :: fields)) := rfl
      rw [hchars, hlexemes, ofChars_append, List.append_assoc, tokensFrom_stringChars,
        tokensFrom_mark .colon rfl (fun _ => rfl), ofChars_append, List.append_assoc,
        hvalue _ (closed_mark ',' 44 rfl (by decide) _ _), tokensFrom_mark .comma rfl (fun _ => rfl), ih hfields,
        List.cons_append, List.cons_append, List.append_assoc, List.cons_append]

theorem scans_word {value : Json} (hne : value.chars ≠ []) (hword : ∀ c ∈ value.chars, IsWordChar c)
    (htoken : [Token.ofWord (ofChars value.chars)] = value.lexemes) : Scans value := by
  intro rest hrest
  rw [tokensFrom_word hne hword hrest, ← htoken, List.singleton_append]

theorem scans_of_plain {depth : Nat} {value : Json} (h : value.Plain depth) : Scans value := by
  induction value using induction generalizing depth with
  | null => exact scans_word (by decide) (by simp [chars, IsWordChar]; decide) rfl
  | bool b => cases b <;> exact scans_word (by decide) (by simp [chars, IsWordChar]; decide) rfl
  | int n =>
    refine scans_word (integer_ne_nil n) (fun _ => isWordChar_of_mem_integer) ?_
    have hword := ofWord_integer h.1 h.2
    rw [chars, hword, lexemes]
  | double => exact absurd h (by simp [Plain])
  | str text =>
    intro rest _
    exact tokensFrom_stringChars text rest
  | arr items ih =>
    obtain ⟨-, hitems⟩ := plain_arr_iff.1 h
    intro rest hrest
    have hscan := scans_items (fun item hitem => ih item hitem (hitems item hitem))
      (closed_mark ']' 93 rfl (by decide) [] rest)
    rw [chars, lexemes, tokensFrom_mark .openArray rfl (fun _ => rfl), ofChars_append, List.append_assoc, hscan,
      tokensFrom_mark .closeArray rfl (fun _ => rfl)]
    simp
  | obj fields ih =>
    obtain ⟨-, hfields⟩ := plain_obj_iff.1 h
    intro rest hrest
    have hscan := scans_fields (fun field hfield => ih field hfield (hfields field hfield))
      (closed_mark '\x7d' 125 rfl (by decide) [] rest)
    rw [chars, lexemes, tokensFrom_mark .openObject rfl (fun _ => rfl), ofChars_append, List.append_assoc, hscan,
      tokensFrom_mark .closeObject rfl (fun _ => rfl)]
    simp

theorem tokens_bytes {depth : Nat} {value : Json} (h : value.Plain depth) : tokens value.bytes = value.lexemes := by
  rw [tokens, Json.bytes, ofText_eq_ofChars, text, String.toList_ofList]
  have hscan := scans_of_plain h [] closed_nil
  rwa [List.append_nil, show tokensFrom .between [] = [] from rfl, List.append_nil] at hscan
end ChainClient.Json
