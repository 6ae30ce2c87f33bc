import ChainClient.Proofs.Channel.Height
import ChainClient.Proofs.Client.Delivery
import ChainClient.Proofs.Client.KnownTypes
import ChainClient.Proofs.Client.Worth

/-!
# Timeouts of transfers

A transfer through a channel names the height at which it ends in a text. If the text is no such height, nothing reaches the node, whatever the rest of the transfer is. If it is one and nothing else is amiss, one transaction is broadcast, and the message that is read from it names the height of the text.
-/

namespace ChainClient

/-! ### The message of a transfer -/

theorem TxRequest.message_transfer_eq_ok_iff {author : KeyInfo} {channel receiver coin text : String} {message : Message} :
    (transfer channel receiver coin text).message author = .ok message ↔
      ∃ id token height, ChannelId.parse channel = .ok id ∧ Coin.parse coin = .ok token ∧ Height.parse text = .ok height ∧
        message = ⟨.channelTransfer,
          { port := .transfer, channel := id, token, sender := author.address, receiver := Text.trim receiver,
            timeoutHeight := height, timeoutTimestamp := 0 }⟩ := by
  constructor
  · intro h
    obtain ⟨id, hid, hrest⟩ := bind_eq_ok.1 h
    obtain ⟨token, htoken, hrest⟩ := bind_eq_ok.1 hrest
    obtain ⟨height, hheight, hmessage⟩ := bind_eq_ok.1 hrest
    cases hmessage
    exact ⟨id, token, height, mapError_eq_ok.1 hid, mapError_eq_ok.1 htoken, mapError_eq_ok.1 hheight, rfl⟩
  · rintro ⟨id, token, height, hid, htoken, hheight, rfl⟩
    exact bind_eq_ok.2 ⟨id, mapError_eq_ok.2 hid, bind_eq_ok.2 ⟨token, mapError_eq_ok.2 htoken,
      bind_eq_ok.2 ⟨height, mapError_eq_ok.2 hheight, rfl⟩⟩⟩

/-- A transfer must move something to someone and end at a height or a time. -/
theorem MessageKind.validate_channelTransfer_eq_ok_iff {m : Transfer.ToChannel} : validate .channelTransfer m = .ok () ↔
    0 < m.token.amount.units ∧ Text.blank m.receiver = false ∧
      (m.timeoutHeight.isZero = false ∨ m.timeoutTimestamp ≠ 0) := by
  have hcheck : check .channelTransfer m = m.validate := rfl
  rw [validate, mapError_eq_ok, hcheck, Transfer.ToChannel.validate, guard_eq_ok, guard_eq_ok, guard_eq_ok, ← Coin.isPositive_iff]
  simp [imp_iff_not_or]

/-! ### Texts that are no timeout -/

variable {session : Session} {author : Author} {channel receiver coin text : String} {revision block : Nat} {bytes : Bytes}
  {mode : BroadcastMode}

/-- A transfer names a height at which it can end, or it is refused before the node hears of it. -/
theorem timeout_or_refused (session : Session) (author : Author) (channel receiver coin text : String) :
    (∃ revision block, Height.Timeout text revision block) ∨
      ∃ e, (author.submit (.transfer channel receiver coin text)).run session = (.error e, []) := by
  rcases @run_submit session author (.transfer channel receiver coin text) with
    hrefused | ⟨message, codec, envelope, hmessage, -, hvalid, -, -⟩
  · exact .inr hrefused
  obtain ⟨id, token, height, -, -, hheight, rfl⟩ := TxRequest.message_transfer_eq_ok_iff.1 hmessage
  obtain ⟨-, -, hends⟩ := MessageKind.validate_channelTransfer_eq_ok_iff.1 hvalid
  have hzero : height.isZero = false := hends.resolve_right (not_not.2 rfl)
  exact .inl ⟨_, _, Height.timeout_iff.2 ⟨height, hheight, hzero, rfl, rfl⟩⟩

/-! ### Transfers that are broadcast -/

theorem exists_timeout_of_broadcast (hcall : .broadcast bytes mode ∈
    ((author.submit (.transfer channel receiver coin text)).run session).2) :
    ∃ revision block, Height.Timeout text revision block := by
  refine (timeout_or_refused session author channel receiver coin text).resolve_right ?_
  rintro ⟨e, hrefused⟩
  rw [hrefused] at hcall
  exact absurd hcall List.not_mem_nil

/-- The bytes are read as a transaction around one message, and the message that is read from its envelope is a transfer that ends at this height and at no time. -/
def EndsAt (codec : Codec) (bytes : Bytes) (revision block : Nat) : Prop :=
  ∃ (tx : Tx) (envelope : Envelope) (m : Transfer.ToChannel),
    codec.decode (.json (.record .tx)) bytes = .ok tx ∧ tx.messages = [envelope] ∧
    codec.decode (.json (.message .channelTransfer)) (Envelope.wire.bytes envelope) = .ok m ∧
    m.timeoutHeight.revision.toNat = revision ∧ m.timeoutHeight.block.toNat = block ∧ m.timeoutTimestamp = 0

theorem endsAt_of_broadcast (hcall : .broadcast bytes mode ∈
      ((author.submit (.transfer channel receiver coin text)).run session).2)
    (hwritten : Height.Written text revision block) :
    ∃ codec, session.codec = some codec ∧ EndsAt codec bytes revision block := by
  obtain ⟨codec, message, envelope, tx, hcodec, hmessage, hdecode, hmessages, hcarries⟩ := carries_of_broadcast_mem hcall
  obtain ⟨id, token, height, -, -, hheight, rfl⟩ := TxRequest.message_transfer_eq_ok_iff.1 hmessage
  obtain ⟨hrevision, hblock⟩ := hwritten.eq (Height.parse_eq_ok_iff.1 hheight)
  exact ⟨codec, hcodec, tx, envelope, _, hdecode, hmessages, hcarries.decoded, hrevision.symm, hblock.symm, rfl⟩

/-- All that a transfer needs besides its timeout: a client with the module and a fixed gas limit, an author who knows the name and the password of a key, a channel, a receiver, and a coin that is worth something. -/
structure TransferReady (session : Session) (author : Author) (channel receiver coin : String) : Prop where
  assembled : ∃ modules facade, Facade.assemble none modules = .ok facade ∧ .ibc ∈ modules ∧
    session.codec = some facade.codec
  gas : session.config.gas ≠ 0
  name : Text.blank author.key.name = false
  password : author.password.isEmpty = false
  unlocks : ∃ info, session.keyring.unlock author.key.name author.password = .ok info
  channel : ∃ id, ChannelId.parse channel = .ok id
  receiver : Text.blank receiver = false
  coin : ∃ token, Coin.parse coin = .ok token ∧ 0 < token.amount.units

theorem TransferReady.exists_run (hready : TransferReady session author channel receiver coin)
    (htimeout : Height.Timeout text revision block) :
    ∃ bytes, (author.submit (.transfer channel receiver coin text)).run session =
      (((session.node.answer [] (.broadcast bytes session.config.mode)).mapError Node.Failure.clientError).map
          fun answer => TxResponse.ofBroadcast answer session.config.mode,
        [.broadcast bytes session.config.mode]) := by
  obtain ⟨modules, facade, hfacade, hmodule, hcodec⟩ := hready.assembled
  obtain ⟨info, hunlock⟩ := hready.unlocks
  obtain ⟨id, hid⟩ := hready.channel
  obtain ⟨token, htoken, hpositive⟩ := hready.coin
  obtain ⟨height, hheight, hzero, -, -⟩ := Height.timeout_iff.1 htimeout
  have hmessage : (TxRequest.transfer channel receiver coin text).message author.key = .ok _ :=
    TxRequest.message_transfer_eq_ok_iff.2 ⟨id, token, height, hid, htoken, hheight, rfl⟩
  have hreceiver : Text.blank (Text.trim receiver) = false := by rw [Text.blank_trim, hready.receiver]
  exact exists_run_submit_of_valid hready.name hready.password hmessage hcodec
    (MessageKind.validate_channelTransfer_eq_ok_iff.2 ⟨hpositive, hreceiver, .inl hzero⟩)
    (Facade.find?_message hfacade hmodule) (Facade.find?_tx hfacade) hunlock hready.gas

/-- **Timeouts of transfers.** Where all else is ready, a transfer is broadcast exactly when its timeout is two numbers of 64 bits with a dash between them and the second is not zero; the broadcast is then the only call, and what the node answers is what comes of the transfer. Whatever transfer is broadcast, the message in it ends at the height that is written in its text. A height is read from what is written for it, and a text with no or a second dash, an empty or too large half or the height zero is refused before the node hears of it. -/
theorem transfer_timeouts :
    (∀ session author channel receiver coin, TransferReady session author channel receiver coin → ∀ text,
      ((∃ bytes mode, .broadcast bytes mode ∈ ((author.submit (.transfer channel receiver coin text)).run session).2) ↔
        ∃ revision block, Height.Timeout text revision block) ∧
      ((∃ revision block, Height.Timeout text revision block) →
        ∃ bytes, (author.submit (.transfer channel receiver coin text)).run session =
          (((session.node.answer [] (.broadcast bytes session.config.mode)).mapError Node.Failure.clientError).map
              fun answer => TxResponse.ofBroadcast answer session.config.mode,
            [.broadcast bytes session.config.mode]))) ∧
    (∀ (session : Session) (author : Author) channel receiver coin text bytes mode,
      .broadcast bytes mode ∈ ((author.submit (.transfer channel receiver coin text)).run session).2 →
      (∃ revision block, Height.Timeout text revision block) ∧
      ∀ revision block, Height.Written text revision block →
        ∃ codec, session.codec = some codec ∧ EndsAt codec bytes revision block) ∧
    (∀ height : Height, Height.parse height.text = .ok height) ∧
    ∀ text, Height.Unfit text → ∀ (session : Session) (author : Author) channel receiver coin,
      ∃ e, (author.submit (.transfer channel receiver coin text)).run session = (.error e, []) := by
  refine ⟨fun session author channel receiver coin hready text => ⟨⟨?fits, ?sent⟩, ?run⟩,
    fun session author channel receiver coin text bytes mode hcall => ⟨exists_timeout_of_broadcast hcall, ?written⟩,
    Height.parse_text, fun text hunfit session author channel receiver coin => ?refused⟩
  case fits =>
    rintro ⟨bytes, mode, hcall⟩
    exact exists_timeout_of_broadcast hcall
  case sent =>
    rintro ⟨revision, block, htimeout⟩
    obtain ⟨bytes, hrun⟩ := hready.exists_run htimeout
    rw [hrun]
    exact ⟨bytes, _, List.mem_singleton_self _⟩
  case run =>
    rintro ⟨revision, block, htimeout⟩
    exact hready.exists_run htimeout
  case written => exact fun revision block hwritten => endsAt_of_broadcast hcall hwritten
  case refused =>
    refine (timeout_or_refused session author channel receiver coin text).resolve_left ?_
    rintro ⟨revision, block, htimeout⟩
    exact hunfit.not_timeout htimeout

namespace Sample

/-- The sample client with the codec of its modules. -/
def clientOf (facade : Facade) : Session := { client with codec := some facade.codec }

theorem transferReady {modules : List Module} {facade : Facade} (hfacade : Facade.assemble none modules = .ok facade)
    (hmodule : .ibc ∈ modules) : TransferReady (clientOf facade) (writer soundKey.info) "channel-0" "cosmos1" "1okt" := by
  have hgas : client.config.gas ≠ 0 := by decide
  constructor
  · exact ⟨modules, facade, hfacade, hmodule, rfl⟩
  · exact hgas
  · decide
  · decide
  · exact ⟨soundKey.info, unlock_soundKey⟩
  · exact ⟨⟨"channel-0"⟩, by decide⟩
  · decide
  · exact ⟨⟨"okt", ⟨10 ^ 18⟩⟩, by decide +kernel, by decide⟩

end Sample

open Sample in
/-- The largest block is broadcast as it is written, behind a revision with a plus sign and a zero in front, and the next block is refused. -/
theorem transfer_timeouts_bound : ∃ facade, Facade.assemble none [.governance, .ibc] = .ok facade ∧
    (∃ bytes, .broadcast bytes .sync ∈ (((writer soundKey.info).submit
        (.transfer "channel-0" "cosmos1" "1okt" "+01-18446744073709551615")).run (clientOf facade)).2 ∧
      EndsAt facade.codec bytes 1 18446744073709551615) ∧
    ∃ e, ((writer soundKey.info).submit (.transfer "channel-0" "cosmos1" "1okt" "1-18446744073709551616")).run
      (clientOf facade) = (.error e, []) := by
  obtain ⟨hready, hwritten, -, hunfit⟩ := transfer_timeouts
  have hmodules : [Module.governance, .ibc].Nodup := by decide
  obtain ⟨facade, hfacade, -⟩ := Facade.exists_assemble hmodules
  have hparse : Height.parse "+01-18446744073709551615" = .ok ⟨1, 18446744073709551615⟩ := by decide +kernel
  have htimeout : Height.Timeout "+01-18446744073709551615" 1 18446744073709551615 :=
    Height.timeout_iff.2 ⟨_, hparse, by decide, rfl, rfl⟩
  have hlarge : "1-18446744073709551616".toList = ['1'] ++ '-' :: Text.digits 18446744073709551616 := by decide +kernel
  refine ⟨facade, hfacade, ?_, ?_⟩
  · obtain ⟨bytes, hrun⟩ := (hready _ _ _ _ _ (transferReady hfacade (by decide)) _).2 ⟨_, _, htimeout⟩
    have hcall : .broadcast bytes .sync ∈ (((writer soundKey.info).submit
        (.transfer "channel-0" "cosmos1" "1okt" "+01-18446744073709551615")).run (clientOf facade)).2 := by
      rw [hrun]
      exact List.mem_singleton_self _
    obtain ⟨codec, hcodec, hends⟩ := (hwritten _ _ _ _ _ _ _ _ hcall).2 _ _ htimeout.written
    cases hcodec
    exact ⟨bytes, hcall, hends⟩
  · exact hunfit _ (.blockTooLarge hlarge (Text.unsigned_digits _) (by decide)) _ _ _ _ _

end ChainClient
