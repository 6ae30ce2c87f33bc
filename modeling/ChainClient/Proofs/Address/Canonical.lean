import ChainClient.Proofs.Address.Text
import ChainClient.Proofs.Encoding.Bech32.Canonical
import ChainClient.Proofs.Outcome

/-!
# One text for one value

Account addresses, validator addresses and consensus keys are read through one decoder, each with its own human readable part and its own bytes behind it. So what bech32 says about parts and bytes holds of all three kinds: a value is read from its text and from this text in upper case, and from no other.

A text that was changed in one character is refused. What is read of it would be the text of another value of the kind, which differs from the first in more than one character, or a text in upper case, while a part of two letters at least was in lower case.
-/

namespace ChainClient

open Bech32

/-! ### The three kinds -/

/-- The kinds of values that are written in bech32. -/
inductive TextKind where
  | address (role : Role)
  | consensusKey
  deriving DecidableEq

namespace TextKind

def Value : TextKind → Type
  | address role => Address role
  | consensusKey => ConsensusKey

def hrp : TextKind → String
  | address role => role.hrp
  | consensusKey => ConsensusKey.hrp

/-- The bytes that a text holds behind the human readable part. -/
def payload : (kind : TextKind) → kind.Value → Bytes
  | address _ => Address.bytes
  | consensusKey => fun key => ConsensusKey.mark ++ key.bytes

def text : (kind : TextKind) → kind.Value → String
  | address _ => Address.text
  | consensusKey => ConsensusKey.text

def parse : (kind : TextKind) → String → Except ValueError kind.Value
  | address _ => Address.parse
  | consensusKey => ConsensusKey.parse

@[simp] theorem parse_address (role : Role) : parse (address role) = Address.parse := rfl

@[simp] theorem text_address (role : Role) : text (address role) = Address.text := rfl

theorem lowerHrp_hrp (kind : TextKind) : LowerHrp kind.hrp.toList := by
  cases kind with
  | address role => exact role.lowerHrp_hrp
  | consensusKey => exact ConsensusKey.lowerHrp_hrp

theorem hrp_injective : Function.Injective hrp := by
  intro kind other h
  cases kind with
  | address role => cases other with
    | address target => cases role <;> cases target <;> first | rfl | exact absurd h (by decide)
    | consensusKey => cases role <;> exact absurd h (by decide)
  | consensusKey => cases other with
    | address target => cases target <;> exact absurd h (by decide)
    | consensusKey => rfl

theorem toList_text (kind : TextKind) (value : kind.Value) :
    (kind.text value).toList = assemble kind.hrp.toList (symbolsOfBytes (kind.payload value)) := by
  cases kind with
  | address role => exact String.toList_ofList
  | consensusKey => exact String.toList_ofList

end TextKind

theorem not_blank_of_decode {text hrp : String} {bytes : Bytes} (h : decode text = .ok (hrp, bytes)) :
    Text.blank text = false := by
  rw [Text.blank, List.all_eq_false]
  exact ⟨separator, (reads_of_decode h).separator_mem, by decide⟩

theorem Address.parse_eq_ok_iff {role : Role} {text : String} {address : Address role} :
    parse text = .ok address ↔ decode text = .ok (role.hrp, address.bytes) := by
  constructor
  · intro h
    obtain ⟨-, hread⟩ := guard_eq_ok.1 h
    cases hdecode : decode text with
    | error cause =>
      rw [hdecode] at hread
      cases hread
    | ok parts =>
      obtain ⟨found, bytes⟩ := parts
      rw [hdecode] at hread
      obtain ⟨hfound, hlength⟩ := guard_eq_ok.1 hread
      split at hlength
      · cases hlength
        rw [not_not.1 hfound]
      · cases hlength
  · intro h
    rw [parse, not_blank_of_decode h, h]
    simp [address.length_bytes]

theorem ConsensusKey.parse_eq_ok_iff {text : String} {key : ConsensusKey} :
    parse text = .ok key ↔ decode text = .ok (hrp, mark ++ key.bytes) := by
  constructor
  · intro h
    obtain ⟨-, hread⟩ := guard_eq_ok.1 h
    cases hdecode : decode text with
    | error cause =>
      rw [hdecode] at hread
      cases hread
    | ok parts =>
      obtain ⟨found, bytes⟩ := parts
      rw [hdecode] at hread
      obtain ⟨hfound, hlength⟩ := guard_eq_ok.1 hread
      split at hlength
      · by_cases hmark : bytes.take 5 = mark
        · rw [if_pos hmark] at hlength
          cases hlength
          rw [not_not.1 hfound, ← hmark, List.take_append_drop]
        · rw [if_neg hmark] at hlength
          cases hlength
      · cases hlength
  · intro h
    rw [parse, not_blank_of_decode h, h]
    simp [key.length_bytes, mark]

namespace TextKind

variable (kind : TextKind)

theorem parse_eq_ok_iff_decode {s : String} {value : kind.Value} :
    kind.parse s = .ok value ↔ decode s = .ok (kind.hrp, kind.payload value) := by
  cases kind with
  | address role => exact Address.parse_eq_ok_iff
  | consensusKey => exact ConsensusKey.parse_eq_ok_iff

/-! ### The accepted texts -/

theorem toList_toUpper (s : String) : s.toUpper.toList = upper s.toList := String.toList_map

theorem toList_toLower (s : String) : s.toLower.toList = lower s.toList := String.toList_map

theorem toLower_text (value : kind.Value) : (kind.text value).toLower = kind.text value := by
  refine String.toList_inj.1 ?_
  rw [toList_toLower, toList_text, kind.lowerHrp_hrp.lower_assemble]

theorem parse_eq_ok_iff {s : String} {value : kind.Value} :
    kind.parse s = .ok value ↔ s = kind.text value ∨ s = (kind.text value).toUpper := by
  rw [parse_eq_ok_iff_decode, decode_eq_ok_iff kind.lowerHrp_hrp, ← toList_text, ← toList_toUpper, String.toList_inj,
    String.toList_inj]

theorem text_eq_toLower {s : String} {value : kind.Value} (h : kind.parse s = .ok value) :
    kind.text value = s.toLower := by
  have hlower := (reads_of_decode (kind.parse_eq_ok_iff_decode.1 h)).lower_text
  refine String.toList_inj.1 ?_
  rw [toList_toLower, toList_text]
  exact hlower.symm

/-- No text is read as values of two kinds, since it has one human readable part. -/
theorem kind_eq_of_parse {other : TextKind} {s : String} {v : kind.Value} {w : other.Value}
    (hv : kind.parse s = .ok v) (hw : other.parse s = .ok w) : kind = other := by
  have hdecode := (kind.parse_eq_ok_iff_decode.1 hv).symm.trans (other.parse_eq_ok_iff_decode.1 hw)
  exact hrp_injective (Prod.mk.inj (Except.ok.inj hdecode)).1

/-- **Canonical texts.** The accepted texts of a kind are the texts of its values in lower case and in upper case, the text of what was read is the text that was read in lower case, and so the case is all in which two accepted texts of one value differ. No text is accepted by two kinds. -/
theorem parse_canonical :
    (∀ value, kind.parse (kind.text value) = .ok value) ∧
    (∀ s, (∃ value, kind.parse s = .ok value) ↔
      ∃ value, s = (kind.text value).toLower ∨ s = (kind.text value).toUpper) ∧
    (∀ s value, kind.parse s = .ok value → kind.text value = s.toLower) ∧
    (∀ s t v w, kind.parse s = .ok v → kind.parse t = .ok w → (v = w ↔ s.toLower = t.toLower)) ∧
    (∀ other s v w, kind.parse s = .ok v → parse other s = .ok w → kind = other) := by
  have hread : ∀ value, kind.parse (kind.text value) = .ok value := fun value => kind.parse_eq_ok_iff.2 (Or.inl rfl)
  refine ⟨hread, fun s => ?_, fun s value => kind.text_eq_toLower, fun s t v w hv hw => ?_,
    fun other s v w => kind.kind_eq_of_parse⟩
  · refine exists_congr fun value => ?_
    rw [parse_eq_ok_iff, toLower_text]
  · rw [← kind.text_eq_toLower hv, ← kind.text_eq_toLower hw]
    constructor
    · exact congrArg kind.text
    · intro htext
      have hboth := hread v
      rw [htext, hread w] at hboth
      exact (Except.ok.inj hboth).symm

/-- The operator with the bytes one to twenty. -/
def sampleOperator : ValidatorAddress := ⟨(List.range 20).map fun i => UInt8.ofNat (i + 1), by decide⟩

theorem parse_sampleOperator :
    parse (.address .validator) "EXVALOPER1QYPQXPQ9QCRSSZG2PVXQ6RS0ZQG3YYC5PVSLT3" = .ok sampleOperator := by
  have hread : Address.parse "EXVALOPER1QYPQXPQ9QCRSSZG2PVXQ6RS0ZQG3YYC5PVSLT3" = .ok sampleOperator := by
    decide +kernel
  rw [parse_address]
  exact hread

/-- The operator is read in upper case and written in lower case, and its text is no account's. -/
theorem parse_canonical_sampleOperator :
    text (.address .validator) sampleOperator = "EXVALOPER1QYPQXPQ9QCRSSZG2PVXQ6RS0ZQG3YYC5PVSLT3".toLower ∧
    "EXVALOPER1QYPQXPQ9QCRSSZG2PVXQ6RS0ZQG3YYC5PVSLT3".toLower = (text (.address .validator) sampleOperator).toLower ∧
    ∀ account : AccountAddress,
      parse (.address .account) "EXVALOPER1QYPQXPQ9QCRSSZG2PVXQ6RS0ZQG3YYC5PVSLT3" ≠ .ok account := by
  obtain ⟨hread, -, hprint, hsame, hkind⟩ := parse_canonical (.address .validator)
  refine ⟨hprint _ _ parse_sampleOperator, (hsame _ _ _ _ parse_sampleOperator (hread sampleOperator)).1 rfl,
    fun account haccount => ?_⟩
  have hroles := hkind (.address .account) _ _ _ parse_sampleOperator haccount
  exact absurd hroles (by decide)

/-! ### One changed character -/

/-- One character of the first text stands changed in the second, and all others stand as they were. -/
def OneCharacterChanged (s t : String) : Prop :=
  ∃ before after c d, c ≠ d ∧ s.toList = before ++ c :: after ∧ t.toList = before ++ d :: after

theorem hrp_eq_cons (kind : TextKind) : ∃ rest, kind.hrp.toList = 'e' :: 'x' :: rest := by
  cases kind with
  | address role => cases role <;> exact ⟨_, rfl⟩
  | consensusKey => exact ⟨_, rfl⟩

/-- The part of a text has two letters in lower case, and one of them is left when one character was changed. -/
theorem ne_toUpper_of_changed {s : String} {value other : kind.Value} (h : OneCharacterChanged (kind.text value) s) :
    s ≠ (kind.text other).toUpper := by
  rintro rfl
  obtain ⟨before, after, c, d, -, htext, hchanged⟩ := h
  obtain ⟨rest, hrest⟩ := kind.hrp_eq_cons
  rw [toList_text, assemble, hrest] at htext
  have hupper : ∀ letter ∈ before ++ d :: after, letter.isLower = false := by
    intro letter hletter
    rw [← hchanged, toList_toUpper] at hletter
    simpa using List.any_eq_false.1 (any_isLower_upper _) letter hletter
  -- The change falls on the first letter, and the second is left, or behind it, and the first is left.
  cases before with
  | nil =>
    have hafter := (List.cons.inj htext).2
    have hx := hupper 'x' (by simp [← hafter])
    exact absurd hx (by decide)
  | cons letter before =>
    have hletter := (List.cons.inj htext).1
    have he := hupper 'e' (by simp [← hletter])
    exact absurd he (by decide)

theorem ne_text_of_changed {s : String} {value other : kind.Value} (h : OneCharacterChanged (kind.text value) s) :
    s ≠ kind.text other := by
  rintro rfl
  obtain ⟨before, after, c, d, hne, htext, hchanged⟩ := h
  rw [toList_text] at htext hchanged
  exact hne (eq_of_assemble_eq htext hchanged)

/-- **Typos are caught.** A text in which one character was changed is refused, wherever the character stands and whatever it became. -/
theorem parse_error_of_changed {s : String} {value : kind.Value} (h : OneCharacterChanged (kind.text value) s) :
    ∃ cause, kind.parse s = .error cause := by
  cases hparse : kind.parse s with
  | error cause => exact ⟨cause, rfl⟩
  | ok other =>
    rcases kind.parse_eq_ok_iff.1 hparse with hlower | hupper
    · exact absurd hlower (kind.ne_text_of_changed h)
    · exact absurd hupper (kind.ne_toUpper_of_changed h)

/-- The operator with its first data symbol changed. -/
theorem parse_error_of_changed_sampleOperator :
    OneCharacterChanged (text (.address .validator) sampleOperator) "exvaloper1pypqxpq9qcrsszg2pvxq6rs0zqg3yyc5pvslt3" ∧
    ∃ cause, parse (.address .validator) "exvaloper1pypqxpq9qcrsszg2pvxq6rs0zqg3yyc5pvslt3" = .error cause := by
  have hchanged : OneCharacterChanged (text (.address .validator) sampleOperator)
      "exvaloper1pypqxpq9qcrsszg2pvxq6rs0zqg3yyc5pvslt3" := by
    refine ⟨"exvaloper1".toList, "ypqxpq9qcrsszg2pvxq6rs0zqg3yyc5pvslt3".toList, 'q', 'p', by decide, ?_, by decide⟩
    rw [text_address]
    decide +kernel
  exact ⟨hchanged, parse_error_of_changed _ hchanged⟩

end TextKind

end ChainClient
