import ChainClient.Codec.DataType
import ChainClient.Proofs.Codec.RoundTrip
import ChainClient.Proofs.Json.Sourced

/-!
# Free-form values that were read

A reader of free-form values returns them with the fields of every object in order, whatever the order in the text was. So the free-form values in anything that was read are in order.
-/

namespace ChainClient

open Wire

variable {root : Json.Document}

theorem ordered_of_returns {value : Json} (h : freeForm.Returns root value) : value.Ordered := by
  obtain ⟨depth, document, -, hvalue⟩ := value?_of_returns_freeForm h
  exact Json.ordered_of_value? hvalue

theorem Envelope.ordered_of_returns {e : Envelope} (h : wire.Returns root e) : e.value.Ordered := by
  obtain ⟨values, ⟨-, hvalue, -⟩, rfl⟩ := returns_record h
  exact ChainClient.ordered_of_returns (returns_of_required hvalue)

theorem Tx.ordered_of_returns {t : Tx} (h : wire.Returns root t) {m : Envelope} (hm : m ∈ t.messages) : m.value.Ordered := by
  obtain ⟨values, ⟨hmessages, -⟩, rfl⟩ := returns_record h
  exact Envelope.ordered_of_returns (returns_of_mem_list (returns_of_required hmessages) hm)

theorem Governance.SubmitProposal.ordered_of_returns {m : SubmitProposal} (h : wire.Returns root m) :
    m.content.value.Ordered := by
  obtain ⟨values, ⟨hcontent, -⟩, rfl⟩ := returns_record h
  exact Envelope.ordered_of_returns (returns_of_required hcontent)

theorem Governance.Proposal.ordered_of_returns {p : Proposal} (h : wire.Returns root p) : p.content.value.Ordered := by
  obtain ⟨values, ⟨hcontent, -⟩, rfl⟩ := returns_record h
  exact Envelope.ordered_of_returns (returns_of_required hcontent)

theorem RecordType.ordered_of_returns {type : RecordType} {value : type.Value} (h : type.wire.Returns root value)
    {part : Nat × Json} (hpart : part ∈ type.freeForms value) : part.2.Ordered := by
  cases type with
  | tx =>
    obtain ⟨m, hm, rfl⟩ := List.mem_map.1 hpart
    exact Tx.ordered_of_returns h hm
  | txMessage | proposalContent =>
    cases List.mem_singleton.1 hpart
    exact Envelope.ordered_of_returns h
  | proposal =>
    cases List.mem_singleton.1 hpart
    exact Governance.Proposal.ordered_of_returns h
  | proposals =>
    obtain ⟨p, hp, rfl⟩ := List.mem_map.1 hpart
    exact Governance.Proposal.ordered_of_returns (returns_of_mem_list h hp)
  | _ => exact absurd hpart List.not_mem_nil

theorem MessageKind.ordered_of_returns {kind : MessageKind} {body : kind.Body} (h : kind.wire.Returns root body)
    {part : Nat × Json} (hpart : part ∈ kind.freeForms body) : part.2.Ordered := by
  cases kind with
  | submitProposal =>
    cases List.mem_singleton.1 hpart
    exact Governance.SubmitProposal.ordered_of_returns h
  | _ => exact absurd hpart List.not_mem_nil

theorem JsonType.ordered_of_returns {type : JsonType} {value : type.Value} (h : type.wire.Returns root value)
    {part : Nat × Json} (hpart : part ∈ type.freeForms value) : part.2.Ordered := by
  cases type with
  | record type => exact RecordType.ordered_of_returns h hpart
  | message kind => exact MessageKind.ordered_of_returns h hpart

/-! ### Values that a codec has read -/

namespace Codec

/-- Whatever a value was decoded from, be it an envelope, its texts stand in the document of the bytes. -/
theorem returns_of_decodeAs {r : Registration} {type : JsonType} {bytes : Bytes} {value : type.Value}
    (h : decodeAs r (.json type) bytes = .ok value) : type.wire.Returns (Json.Document.ofBytes bytes).1 value := by
  cases r with
  | concrete name type' =>
    obtain ⟨e, he, hrest⟩ := bind_eq_ok.1 h
    obtain ⟨-, hvalue⟩ := guard_eq_ok.1 hrest
    obtain ⟨values, ⟨-, hcontent, -⟩, rfl⟩ := returns_record (returns_of_readBytes (mapError_eq_ok.1 he))
    exact returns_of_readJson (within_of_returns_freeForm (returns_of_required hcontent)) (mapError_eq_ok.1 hvalue)
  | plain name type' => exact returns_of_readBytes (mapError_eq_ok.1 h)
  | proto name type' => exact returns_of_readBytes (mapError_eq_ok.1 h)

/-- The free-form values in a value that was read are in order, so only doubles and depth can keep it from being written and read again. -/
theorem admits_of_decodeAs {r : Registration} {type : JsonType} {bytes : Bytes} {value : type.Value}
    (h : decodeAs r (.json type) bytes = .ok value)
    (hplain : ∀ part ∈ type.freeForms value, part.2.Plain (r.room - part.1)) : r.Admits value :=
  fun part hpart => ⟨JsonType.ordered_of_returns (returns_of_decodeAs h) hpart, hplain part hpart⟩

end Codec

end ChainClient
