import ChainClient.Proofs.Codec.FreeForm
import ChainClient.Proofs.Coin.Text

/-!
# What decoding checks and what it lets through

Amounts, coins, ports and channels can be made by constructors that check them, and can be read as parts of a value in JSON. The reader of an amount is the constructor that checks it. The denomination of a coin and the identifiers of ports and channels are taken from the text as they stand there, so a decoded coin, port or channel need not be one that its own constructor accepts.
-/

namespace ChainClient

open Wire

/-- A part of a value for which there is a constructor that checks it. -/
inductive Part where
  | amount (amount : Decimal)
  | coin (coin : Coin)
  | port (port : PortId)
  | channel (channel : ChannelId)

namespace Part

/-- What the constructors of the part ask for. An amount has nothing to ask for, since it cannot be negative. -/
def Valid : Part → Prop
  | amount _ => True
  | coin c => Coin.validDenom c.denom.toList
  | port p => Identifier.validate p.text 2 128 = .ok ()
  | channel c => Identifier.validate c.text 8 64 = .ok ()

/-- The text of the part is read as this part. -/
def ReadsBack : Part → Prop
  | amount d => Decimal.parse d.text = .ok d
  | coin c => Coin.parse c.text = .ok c
  | port p => PortId.parse p.text = .ok p
  | channel c => ChannelId.parse c.text = .ok c

theorem readsBack_iff (part : Part) : part.ReadsBack ↔ part.Valid := by
  cases part with
  | amount d => exact iff_of_true d.parse_text trivial
  | coin c => exact Coin.parse_text_iff
  | port p =>
    rw [ReadsBack, PortId.parse, map_eq_ok]
    exact ⟨fun ⟨_, h, _⟩ => h, fun h => ⟨(), h, rfl⟩⟩
  | channel c =>
    rw [ReadsBack, ChannelId.parse, map_eq_ok]
    exact ⟨fun ⟨_, h, _⟩ => h, fun h => ⟨(), h, rfl⟩⟩

end Part

/-! ### The parts of a value -/

namespace Staking

def Validator.parts (v : Validator) : List Part := .amount v.delegatorShares :: v.minSelfDelegation.toList.map .amount

def Delegator.parts (d : Delegator) : List Part :=
  .amount d.shares :: .amount d.tokens :: (d.unbondedTokens.toList ++ d.totalDelegatedTokens.toList).map .amount

end Staking

namespace Governance

def TallyResult.parts (t : TallyResult) : List Part := [.amount t.yes, .amount t.abstain, .amount t.no, .amount t.noWithVeto]

def Proposal.parts (p : Proposal) : List Part := p.finalTally.parts ++ p.totalDeposit.map .coin

end Governance

def RecordType.parts : (type : RecordType) → type.Value → List Part
  | coin, c => [.coin c]
  | coins, cs => cs.map .coin
  | fee, f => f.amount.map .coin
  | tx, t => t.fee.amount.map .coin
  | accountInfo, a => a.coins.map .coin
  | decimal, d => [.amount d]
  | portId, p => [.port p]
  | channelId, c => [.channel c]
  | validator, v => v.parts
  | validators, vs => vs.flatMap Staking.Validator.parts
  | delegator, d => d.parts
  | stakingParams, p => [.amount p.minDelegation, .amount p.minSelfDelegation]
  | tallyResult, t => t.parts
  | proposal, p => p.parts
  | proposals, ps => ps.flatMap Governance.Proposal.parts
  | tokenInfo, t => .amount t.originalTotalSupply :: t.totalSupply.toList.map .amount
  | payment, p => p.coins.map .coin
  | _, _ => []

def MessageKind.parts : (kind : MessageKind) → kind.Body → List Part
  | stakingDeposit, m => [.coin m.quantity]
  | stakingWithdraw, m => [.coin m.quantity]
  | createValidator, m => [.coin m.minSelfDelegation]
  | submitProposal, m => m.initialDeposit.map .coin
  | proposalDeposit, m => m.amount.map .coin
  | send, m => m.amount.map .coin
  | multiSend, m => m.transfers.flatMap fun payment => payment.coins.map .coin
  | channelTransfer, m => [.port m.port, .channel m.channel, .coin m.token]
  | _, _ => []

/-- The amounts, coins, ports and channels in a value, at any depth. -/
def JsonType.parts : (type : JsonType) → type.Value → List Part
  | record type, value => type.parts value
  | message kind, body => kind.parts body

/-! ### Where the parts of a decoded value come from -/

variable {root : Json.Document}

/-- An amount was read from digits and points, without a sign. -/
def Decimal.StandsIn (root : Json.Document) (d : Decimal) : Prop :=
  ∃ text, root.Holds text ∧ (∀ c ∈ text.toList, Coin.isAmountChar c) ∧ Decimal.parse text = .ok d

/-- A part was read from texts that stand in a document: an amount through the constructor that checks it, a denomination or an identifier as it stands there. -/
def Part.StandsIn (root : Json.Document) : Part → Prop
  | amount d => d.StandsIn root
  | coin c => root.Holds c.denom ∧ c.amount.StandsIn root
  | port p => root.Holds p.text
  | channel c => root.Holds c.text

theorem Decimal.standsIn_of_returns {d : Decimal} (h : wire.Returns root d) : d.StandsIn root := by
  obtain ⟨text, htext, hparse⟩ := holds_of_returns_parsed h
  exact ⟨text, htext, fun c hc => Decimal.isAmountChar_of_parse hparse hc, hparse⟩

theorem Decimal.standsIn_of_returns_option {d : Option Decimal} (h : (option wire).Returns root d ∨ d = none) :
    ∀ part ∈ d.toList.map Part.amount, part.StandsIn root := by
  intro part hpart
  obtain ⟨found, hfound, rfl⟩ := List.mem_map.1 hpart
  cases Option.mem_toList.1 hfound
  exact Decimal.standsIn_of_returns (returns_of_option (h.resolve_right (Option.some_ne_none found)))

theorem Coin.standsIn_of_returns {c : Coin} (h : wire.Returns root c) : (Part.coin c).StandsIn root := by
  obtain ⟨values, ⟨hdenom, hamount, -⟩, rfl⟩ := returns_record h
  exact ⟨holds_of_returns_string (returns_of_required hdenom), Decimal.standsIn_of_returns (returns_of_required hamount)⟩

theorem Coin.standsIn_of_returns_list {coins : List Coin} (h : (list wire).Returns root coins ∨ coins = []) :
    ∀ part ∈ coins.map Part.coin, part.StandsIn root := by
  intro part hpart
  obtain ⟨c, hc, rfl⟩ := List.mem_map.1 hpart
  exact Coin.standsIn_of_returns (returns_of_mem_list (h.resolve_right (List.ne_nil_of_mem hc)) hc)

theorem PortId.standsIn_of_returns {p : PortId} (h : wire.Returns root p) : (Part.port p).StandsIn root := by
  obtain ⟨text, htext, hread⟩ := holds_of_returns_texted h
  cases hread
  exact htext

theorem ChannelId.standsIn_of_returns {c : ChannelId} (h : wire.Returns root c) : (Part.channel c).StandsIn root := by
  obtain ⟨text, htext, hread⟩ := holds_of_returns_texted h
  cases hread
  exact htext

theorem Fee.standsIn_of_returns {f : Fee} (h : wire.Returns root f) :
    ∀ part ∈ f.amount.map Part.coin, part.StandsIn root := by
  obtain ⟨values, ⟨hamount, -⟩, rfl⟩ := returns_record h
  exact Coin.standsIn_of_returns_list (.inl (returns_of_required hamount))

theorem Transfer.Payment.standsIn_of_returns {p : Payment} (h : wire.Returns root p) :
    ∀ part ∈ p.coins.map Part.coin, part.StandsIn root := by
  obtain ⟨values, ⟨-, hcoins, -⟩, rfl⟩ := returns_record h
  exact Coin.standsIn_of_returns_list (.inl (returns_of_required hcoins))

namespace Staking

theorem Validator.standsIn_of_returns {v : Validator} (h : wire.Returns root v) : ∀ part ∈ v.parts, part.StandsIn root := by
  obtain ⟨values, ⟨-, -, -, -, -, hshares, -, -, -, hself, -⟩, rfl⟩ := returns_record h
  exact List.forall_mem_cons.2 ⟨Decimal.standsIn_of_returns (returns_of_required hshares),
    Decimal.standsIn_of_returns_option (returns_of_default hself)⟩

theorem Delegator.standsIn_of_returns {d : Delegator} (h : wire.Returns root d) : ∀ part ∈ d.parts, part.StandsIn root := by
  obtain ⟨values, ⟨-, -, hshares, htokens, hunbonded, -, -, htotal, -⟩, rfl⟩ := returns_record h
  refine List.forall_mem_cons.2 ⟨Decimal.standsIn_of_returns (returns_of_required hshares),
    List.forall_mem_cons.2 ⟨Decimal.standsIn_of_returns (returns_of_required htokens), ?_⟩⟩
  rw [List.map_append]
  exact List.forall_mem_append.2 ⟨Decimal.standsIn_of_returns_option (returns_of_default hunbonded),
    Decimal.standsIn_of_returns_option (returns_of_default htotal)⟩

end Staking

namespace Governance

theorem TallyResult.standsIn_of_returns {t : TallyResult} (h : wire.Returns root t) :
    ∀ part ∈ t.parts, part.StandsIn root := by
  obtain ⟨values, ⟨hyes, habstain, hno, hveto, -⟩, rfl⟩ := returns_record h
  simp only [parts, List.forall_mem_cons]
  exact ⟨Decimal.standsIn_of_returns (returns_of_required hyes), Decimal.standsIn_of_returns (returns_of_required habstain),
    Decimal.standsIn_of_returns (returns_of_required hno), Decimal.standsIn_of_returns (returns_of_required hveto),
    fun _ hpart => absurd hpart List.not_mem_nil⟩

theorem Proposal.standsIn_of_returns {p : Proposal} (h : wire.Returns root p) : ∀ part ∈ p.parts, part.StandsIn root := by
  obtain ⟨values, ⟨-, -, -, htally, -, -, hdeposit, -⟩, rfl⟩ := returns_record h
  exact List.forall_mem_append.2 ⟨TallyResult.standsIn_of_returns (returns_of_required htally),
    Coin.standsIn_of_returns_list (returns_of_default hdeposit)⟩

end Governance

theorem RecordType.standsIn_of_returns {type : RecordType} {value : type.Value} (h : type.wire.Returns root value) :
    ∀ part ∈ type.parts value, part.StandsIn root := by
  cases type with
  | coin => exact List.forall_mem_singleton.2 (Coin.standsIn_of_returns h)
  | coins => exact Coin.standsIn_of_returns_list (.inl h)
  | fee => exact Fee.standsIn_of_returns h
  | tx =>
    obtain ⟨values, ⟨-, hfee, -⟩, rfl⟩ := returns_record h
    exact Fee.standsIn_of_returns (returns_of_required hfee)
  | accountInfo =>
    obtain ⟨values, ⟨-, -, hcoins, -⟩, rfl⟩ := returns_record h
    exact Coin.standsIn_of_returns_list (returns_of_default hcoins)
  | decimal => exact List.forall_mem_singleton.2 (Decimal.standsIn_of_returns h)
  | portId => exact List.forall_mem_singleton.2 (PortId.standsIn_of_returns h)
  | channelId => exact List.forall_mem_singleton.2 (ChannelId.standsIn_of_returns h)
  | validator => exact Staking.Validator.standsIn_of_returns h
  | validators =>
    intro part hpart
    obtain ⟨v, hv, hmem⟩ := List.mem_flatMap.1 hpart
    exact Staking.Validator.standsIn_of_returns (returns_of_mem_list h hv) part hmem
  | delegator => exact Staking.Delegator.standsIn_of_returns h
  | stakingParams =>
    obtain ⟨values, ⟨-, -, -, -, hdelegation, hself, -⟩, rfl⟩ := returns_record h
    exact List.forall_mem_cons.2 ⟨Decimal.standsIn_of_returns (returns_of_required hdelegation),
      List.forall_mem_singleton.2 (Decimal.standsIn_of_returns (returns_of_required hself))⟩
  | tallyResult => exact Governance.TallyResult.standsIn_of_returns h
  | proposal => exact Governance.Proposal.standsIn_of_returns h
  | proposals =>
    intro part hpart
    obtain ⟨p, hp, hmem⟩ := List.mem_flatMap.1 hpart
    exact Governance.Proposal.standsIn_of_returns (returns_of_mem_list h hp) part hmem
  | tokenInfo =>
    obtain ⟨values, ⟨-, -, -, -, hsupply, htotal, -⟩, rfl⟩ := returns_record h
    exact List.forall_mem_cons.2 ⟨Decimal.standsIn_of_returns (returns_of_required hsupply),
      Decimal.standsIn_of_returns_option (returns_of_default htotal)⟩
  | payment => exact Transfer.Payment.standsIn_of_returns h
  | _ => exact fun _ hpart => absurd hpart List.not_mem_nil

theorem MessageKind.standsIn_of_returns {kind : MessageKind} {body : kind.Body} (h : kind.wire.Returns root body) :
    ∀ part ∈ kind.parts body, part.StandsIn root := by
  cases kind with
  | stakingDeposit | stakingWithdraw =>
    obtain ⟨values, ⟨-, hquantity, -⟩, rfl⟩ := returns_record h
    exact List.forall_mem_singleton.2 (Coin.standsIn_of_returns (returns_of_required hquantity))
  | createValidator =>
    obtain ⟨values, ⟨-, hself, -⟩, rfl⟩ := returns_record h
    exact List.forall_mem_singleton.2 (Coin.standsIn_of_returns (returns_of_required hself))
  | submitProposal =>
    obtain ⟨values, ⟨-, hdeposit, -⟩, rfl⟩ := returns_record h
    exact Coin.standsIn_of_returns_list (.inl (returns_of_required hdeposit))
  | proposalDeposit | send =>
    obtain ⟨values, ⟨-, -, hamount, -⟩, rfl⟩ := returns_record h
    exact Coin.standsIn_of_returns_list (.inl (returns_of_required hamount))
  | multiSend =>
    obtain ⟨values, ⟨-, htransfers, -⟩, rfl⟩ := returns_record h
    intro part hpart
    obtain ⟨p, hp, hmem⟩ := List.mem_flatMap.1 hpart
    exact Transfer.Payment.standsIn_of_returns (returns_of_mem_list (returns_of_required htransfers) hp) part hmem
  | channelTransfer =>
    obtain ⟨values, ⟨hport, hchannel, htoken, -⟩, rfl⟩ := returns_record h
    simp only [parts, List.forall_mem_cons]
    exact ⟨PortId.standsIn_of_returns (returns_of_required hport),
      ChannelId.standsIn_of_returns (returns_of_required hchannel), Coin.standsIn_of_returns (returns_of_required htoken),
      fun _ hpart => absurd hpart List.not_mem_nil⟩
  | _ => exact fun _ hpart => absurd hpart List.not_mem_nil

theorem JsonType.standsIn_of_returns {type : JsonType} {value : type.Value} (h : type.wire.Returns root value) :
    ∀ part ∈ type.parts value, part.StandsIn root := by
  cases type with
  | record type => exact RecordType.standsIn_of_returns h
  | message kind => exact MessageKind.standsIn_of_returns h

/-! ### Decoded values -/

namespace Codec

variable {codec : Codec} {type : JsonType} {bytes : Bytes} {value : type.Value}

theorem decode_of_unmarshalJson (h : codec.unmarshalJson (.json type) bytes = .ok value) :
    codec.decode (.json type) bytes = .ok value :=
  (guard_eq_ok.1 h).2

/-- **Decoded parts.** The amounts in a decoded value were read by the constructor that checks them, from texts without a sign, and are read back. The denominations of its coins and the identifiers of its ports and channels are texts of the document that nobody has checked: such a part is read back exactly if it is valid. Nothing is refused for the sake of a part: of the same type every value whose free-form values leave room is decoded from some bytes, however invalid its parts are. -/
theorem parts_of_decode
    (h : codec.decode (.json type) bytes = .ok value ∨ codec.unmarshalJson (.json type) bytes = .ok value) :
    (∀ part ∈ type.parts value,
      part.StandsIn (Json.Document.ofBytes bytes).1 ∧ (part.ReadsBack ↔ part.Valid)) ∧
    ∃ r, codec.find? (.json type) = some r ∧
      ∀ other : type.Value, r.Admits other → ∃ others, codec.decode (.json type) others = .ok other := by
  obtain ⟨r, hfind, hread⟩ := decode_eq_ok_iff.1 (h.elim id decode_of_unmarshalJson)
  constructor
  · intro part hpart
    exact ⟨JsonType.standsIn_of_returns (returns_of_decodeAs hread) part hpart, part.readsBack_iff⟩
  · refine ⟨r, hfind, fun other hadmits => ⟨encodeAs r (.json type) other, ?_⟩⟩
    exact decode_eq_ok_iff.2 ⟨r, hfind, decodeAs_encodeAs hadmits⟩

/-- A valid coin, read from the text of its amount and read back from its own text. -/
theorem parts_of_decode_coin :
    let codec : Codec := ⟨basicRegistrations⟩
    let bytes := Bytes.ofText "\x7b\"denom\":\"okt\",\"amount\":\".5\"\x7d"
    let coin : Coin := ⟨"okt", ⟨5 * 10 ^ 17⟩⟩
    codec.decode (.json (.record .coin)) bytes = .ok coin ∧
      (Part.coin coin).StandsIn (Json.Document.ofBytes bytes).1 ∧ (Part.coin coin).ReadsBack := by
  intro codec bytes coin
  have hdecode : codec.decode (.json (.record .coin)) bytes = .ok coin := by rfl
  have hvalid : Coin.validDenom coin.denom.toList = true := by decide
  obtain ⟨hstands, hback⟩ := (parts_of_decode (.inl hdecode)).1 (.coin coin) (List.mem_singleton_self _)
  exact ⟨hdecode, hstands, hback.2 hvalid⟩

/-- The codec of every client decodes a coin whose denomination is in upper case; the reader of coins refuses the text of this coin. -/
theorem invalid_coin_decoded : ∃ codec bytes coin, empty.registerAll basicRegistrations = (codec, none) ∧
    codec.decode (.json (.record .coin)) bytes = .ok coin ∧ ¬ (Part.coin coin).Valid ∧ ¬ (Part.coin coin).ReadsBack := by
  have hinvalid : ¬ Coin.validDenom "OKT".toList := by decide
  refine ⟨_, Bytes.ofText "\x7b\"denom\":\"OKT\",\"amount\":\"1\"\x7d", ⟨"OKT", ⟨10 ^ 18⟩⟩, rfl, rfl, hinvalid, ?_⟩
  rw [Part.readsBack_iff]
  exact hinvalid

end Codec

end ChainClient
