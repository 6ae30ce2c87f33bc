import ChainClient.Address.ConsensusKey
import ChainClient.Proofs.Encoding.Bech32.Text

/-!
# Addresses and consensus keys read back

The text of an address is read as this address in the role it was written in, and the text of a consensus key as this key.
-/

namespace ChainClient

open Bech32

theorem not_blank_assemble (hrp : List Char) (data : List Symbol) :
    Text.blank (String.ofList (assemble hrp data)) = false := by
  rw [Text.blank, String.toList_ofList, List.all_eq_false]
  exact ⟨separator, by simp [assemble], by decide⟩

theorem Role.lowerHrp_hrp (role : Role) : LowerHrp role.hrp.toList := by
  cases role <;> exact ⟨by decide, by decide⟩

theorem ConsensusKey.lowerHrp_hrp : LowerHrp hrp.toList := ⟨by decide, by decide⟩

theorem Address.bytes_injective {role : Role} : Function.Injective (bytes : Address role → Bytes) := by
  rintro ⟨left, hleft⟩ ⟨right, hright⟩ rfl
  rfl

@[simp] theorem Address.parse_text {role : Role} (address : Address role) : parse address.text = .ok address := by
  have hdecode := decode_assemble role.lowerHrp_hrp address.bytes
  rw [String.ofList_toList] at hdecode
  rw [parse, text, not_blank_assemble, hdecode]
  simp [address.length_bytes]

theorem Bech32.isBlank_char : ∀ s : Symbol, Text.isBlank s.char = false := by decide

/-- The text of an address is one word. -/
theorem Address.visible_text {role : Role} (address : Address role) :
    address.text.toList ≠ [] ∧ ∀ c ∈ address.text.toList, Text.isBlank c = false := by
  have hhrp : role.hrp.toList.all fun c => !Text.isBlank c := by cases role <;> decide
  rw [text, String.toList_ofList, assemble]
  refine ⟨by simp, List.forall_mem_append.2 ⟨fun c hc => ?_, List.forall_mem_cons.2
    ⟨by decide, List.forall_mem_map.2 fun s _ => isBlank_char s⟩⟩⟩
  simpa using List.all_eq_true.1 hhrp c hc

@[simp] theorem ConsensusKey.parse_text (key : ConsensusKey) : parse key.text = .ok key := by
  have hdecode := decode_assemble lowerHrp_hrp (mark ++ key.bytes)
  rw [String.ofList_toList] at hdecode
  rw [parse, text, not_blank_assemble, hdecode]
  simp [key.length_bytes, mark]

end ChainClient
