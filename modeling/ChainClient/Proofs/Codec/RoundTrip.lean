import ChainClient.Proofs.Codec.Lookup
import ChainClient.Proofs.Codec.Records

/-!
# Decoding undoes encoding

Whatever a codec writes in JSON it reads back, in the style in which the type is registered: bare values directly, and concrete ones out of the envelope, where they have become free-form values in the meantime. The free-form values inside a value have to leave room for what is around them.
-/

namespace ChainClient

open Wire

variable {levels : Nat}

namespace RecordType

/-- The free-form values in a record, each with the number of containers around it. -/
def freeForms : (type : RecordType) → type.Value → List (Nat × Json)
  | tx, t => t.messages.map fun m => (3, m.value)
  | txMessage, m => [(1, m.value)]
  | proposalContent, m => [(1, m.value)]
  | proposal, p => [(2, p.content.value)]
  | proposals, ps => ps.map fun p => (3, p.content.value)
  | _, _ => []

theorem faithful_wire {type : RecordType} {value : type.Value} (hlevels : 8 ≤ levels)
    (h : ∀ part ∈ type.freeForms value, part.2.Regular (levels - part.1)) : type.wire.Faithful levels value := by
  obtain ⟨inner, rfl⟩ := Nat.exists_eq_add_of_le' hlevels
  cases type with
  | coin => exact Coin.faithful_wire value
  | coins => exact faithful_list fun c _ => Coin.faithful_wire c
  | fee => exact Fee.faithful_wire value
  | signature => exact Signature.faithful_wire value
  | tx => exact Tx.faithful_wire fun m hm => h _ (List.mem_map_of_mem hm)
  | txMessage => exact Envelope.faithful_wire (h _ (List.mem_singleton_self _))
  | publicKey => exact PublicKey.faithful_wire value
  | txResponse => exact TxResponse.faithful_wire value
  | accountInfo => exact AccountInfo.faithful_wire value
  | decimal => exact Decimal.faithful_wire value
  | height => exact Height.faithful_wire value
  | portId => exact PortId.faithful_wire value
  | channelId => exact ChannelId.faithful_wire value
  | voteOption => exact Governance.VoteOption.faithful_wire value
  | proposalStatus => exact Governance.ProposalStatus.faithful_wire value
  | broadcastMode => exact BroadcastMode.faithful_wire value
  | accountAddress => exact Address.faithful_wire value
  | validatorAddress => exact Address.faithful_wire value
  | consensusKey => exact ConsensusKey.faithful_wire value
  | description => exact Staking.Description.faithful_wire value
  | validator => exact Staking.Validator.faithful_wire value
  | validators => exact faithful_list fun v _ => Staking.Validator.faithful_wire v
  | delegator => exact Staking.Delegator.faithful_wire value
  | stakingParams => exact Staking.Params.faithful_wire value
  | textProposal => exact Governance.TextProposal.faithful_wire value
  | proposalContent => exact Envelope.faithful_wire (h _ (List.mem_singleton_self _))
  | proposalFilter => exact Governance.ProposalFilter.faithful_wire value
  | proposalQuery => exact Governance.ProposalQuery.faithful_wire value
  | tallyResult => exact Governance.TallyResult.faithful_wire value
  | proposal => exact Governance.Proposal.faithful_wire (h _ (List.mem_singleton_self _))
  | proposals =>
    refine faithful_list fun p hp => Governance.Proposal.faithful_wire ?_
    exact h (3, p.content.value) (List.mem_map_of_mem hp)
  | tokenInfo => exact TokenInfo.faithful_wire value
  | payment => exact Transfer.Payment.faithful_wire value
  | contractParams => exact ContractParams.faithful_wire value
  | contractCode => exact ContractCode.faithful_wire value
  | storageSlot => exact StorageSlot.faithful_wire value
  | execution => exact Node.Execution.faithful_wire value
  | block => exact Node.Block.faithful_wire value
  | blockResults => exact Node.BlockResults.faithful_wire value
  | commit => exact Node.Commit.faithful_wire value
  | validatorSet => exact Node.ValidatorSet.faithful_wire value
  | txRecord => exact Node.TxRecord.faithful_wire value
  | txPage => exact Node.TxPage.faithful_wire value
  | headerAtHeight => exact Node.HeaderAtHeight.faithful_wire value

end RecordType

namespace JsonType

/-- The free-form values in a value, each with the number of containers around it. -/
def freeForms : (type : JsonType) → type.Value → List (Nat × Json)
  | record type, value => type.freeForms value
  | message kind, body => kind.freeForms body

theorem faithful_wire {type : JsonType} {value : type.Value} (hlevels : 8 ≤ levels)
    (h : ∀ part ∈ type.freeForms value, part.2.Regular (levels - part.1)) : type.wire.Faithful levels value := by
  cases type with
  | record type => exact RecordType.faithful_wire hlevels h
  | message kind => exact MessageKind.faithful_wire (by omega) h

end JsonType

/-! ### Values in the style of a registration -/

namespace Registration

/-- How many containers a value may open inside each other: the envelope of a concrete type is one of those that a reader allows. -/
def room : Registration → Nat
  | concrete _ _ => maxDepth - 1
  | _ => maxDepth

/-- The free-form values in a value leave room for the containers around them. -/
def Admits (r : Registration) {type : JsonType} (value : type.Value) : Prop :=
  ∀ part ∈ type.freeForms value, part.2.Regular (r.room - part.1)

end Registration

namespace Codec

theorem read_envelope (name : String) {depth : Nat} {value : Json} (h : value.Plain depth) :
    Envelope.wire.read (depth + 1) (Json.obj [("type", .str name), ("value", value)]).document =
      .ok ⟨name, value.sorted⟩ := by
  have hvalue : freeForm.read depth value.document = .ok value.sorted := by
    simp only [freeForm, Json.value?_document h]
  simp [Envelope.wire, record, Fields.read, Json.document, Json.documentFields, Fields.putAll, Fields.put, field,
    Fields.empty, Fields.finish, string, hvalue, bind, Except.bind, Except.map, Presence.fallback?]

/-- An envelope is read as the value that the free-form value in it is read as. -/
theorem decodeEnvelope_obj (name : String) {type : JsonType} {content : Json} {value : type.Value}
    (hcontent : content.Plain (maxDepth - 1)) (hvalue : type.wire.readJson content.sorted = .ok value) :
    decodeEnvelope name type (Json.obj [("type", .str name), ("value", content)]).bytes = .ok value := by
  have hplain : (Json.obj [("type", .str name), ("value", content)]).Plain maxDepth :=
    Json.plain_obj_iff.2 ⟨by decide, by simp [hcontent]⟩
  have henvelope : Envelope.wire.readBytes (Json.obj [("type", .str name), ("value", content)]).bytes =
      .ok ⟨name, content.sorted⟩ := by
    have hread := read_envelope name hcontent
    rw [Wire.readBytes, Json.ofBytes_bytes hplain]
    simp only [maxDepth, bind, Except.bind] at hread ⊢
    rw [hread]
    rfl
  rw [decodeEnvelope, henvelope]
  simp [bind, Except.bind, hvalue]

theorem decodeEnvelope_bytes (name : String) {type : JsonType} {value : type.Value}
    (h : type.wire.Faithful (maxDepth - 1) value) :
    decodeEnvelope name type (Json.obj [("type", .str name), ("value", type.wire.write value)]).bytes = .ok value :=
  decodeEnvelope_obj name h.plain (h.mono (Nat.sub_le _ _)).readJson

theorem faithful_of_admits {r : Registration} {type : JsonType} {value : type.Value} (h : r.Admits value) :
    type.wire.Faithful r.room value := by
  have hroom : 8 ≤ r.room := by cases r <;> simp [Registration.room, maxDepth]
  exact JsonType.faithful_wire hroom h

theorem decodeAs_encodeAs {r : Registration} {type : JsonType} {value : type.Value} (h : r.Admits value) :
    decodeAs r (.json type) (encodeAs r (.json type) value) = .ok value := by
  have hfaithful := faithful_of_admits h
  cases r with
  | concrete name type' => exact decodeEnvelope_bytes name hfaithful
  | plain name type' => simp only [decodeAs, encodeAs, hfaithful.readBytes, mapError_ok]
  | proto name type' => simp only [decodeAs, encodeAs, hfaithful.readBytes, mapError_ok]

/-- A type with a form in JSON is never registered as a protobuf type. -/
theorem style_ne_proto {codec : Codec} {type : JsonType} {r : Registration} (h : codec.find? (.json type) = some r) :
    r.style ≠ .proto := by
  have htype := type_of_find? h
  cases r with
  | concrete | plain => exact Style.noConfusion
  | proto name type' => exact DataType.noConfusion htype

theorem marshalJson_eq {codec : Codec} {type : JsonType} {r : Registration} (h : codec.find? (.json type) = some r)
    (value : type.Value) : codec.marshalJson (.json type) value = .ok (encodeAs r (.json type) value) := by
  simp [marshalJson, encode, registration, h, style_ne_proto h, bind, Except.bind, Except.map]

theorem unmarshalJson_eq {codec : Codec} {type : JsonType} {r : Registration} (h : codec.find? (.json type) = some r)
    (bytes : Bytes) : codec.unmarshalJson (.json type) bytes =
      (decodeAs r (.json type) bytes).mapError (.decode r.name bytes.length) := by
  simp [unmarshalJson, decode, style?, h, style_ne_proto h]

/-- What a codec writes of a value it reads as this value. -/
theorem unmarshalJson_encodeAs {codec : Codec} {type : JsonType} {r : Registration}
    (h : codec.find? (.json type) = some r) {value : type.Value} (hadmits : r.Admits value) :
    codec.unmarshalJson (.json type) (encodeAs r (.json type) value) = .ok value := by
  rw [unmarshalJson_eq h, decodeAs_encodeAs hadmits, mapError_ok]

end Codec

end ChainClient
