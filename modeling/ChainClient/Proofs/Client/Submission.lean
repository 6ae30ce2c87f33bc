import ChainClient.Proofs.Client.SignedBroadcast
import ChainClient.Proofs.Codec.Enveloped

/-!
# What a request hands to the node

A request that reaches the node has become one message in the author's name. This message was checked, stands alone in the transaction that the bytes are read as, and is itself read from its envelope; and the transaction was signed with the key of the author's name.
-/

namespace ChainClient

open Operation

/-! ### Messages in the name of a key -/

/-- The messages that requests become in the name of a key. What is not named here is free. -/
inductive Message.InNameOf (author : KeyInfo) : Message → Prop where
  | stakingDeposit (quantity : Coin) : InNameOf author ⟨.stakingDeposit, { delegator := author.address, quantity }⟩
  | stakingWithdraw (quantity : Coin) : InNameOf author ⟨.stakingWithdraw, { delegator := author.address, quantity }⟩
  | addShares (validators : List ValidatorAddress) :
      InNameOf author ⟨.addShares, { delegator := author.address, validators }⟩
  | registerProxy (register : Bool) : InNameOf author ⟨.registerProxy, { proxy := author.address, register }⟩
  | bindProxy (proxy : AccountAddress) : InNameOf author ⟨.bindProxy, { delegator := author.address, proxy }⟩
  | unbindProxy : InNameOf author ⟨.unbindProxy, { delegator := author.address }⟩
  | createValidator (description : Staking.Description) (minSelfDelegation : Coin) (publicKey : ConsensusKey) :
      InNameOf author ⟨.createValidator,
        { description, minSelfDelegation, delegator := author.address, validator := author.address.inRole .validator,
          publicKey }⟩
  | editValidator (description : Staking.Description) :
      InNameOf author ⟨.editValidator, { description, validator := author.address.inRole .validator }⟩
  | destroyValidator : InNameOf author ⟨.destroyValidator, { delegator := author.address }⟩
  | submitProposal (proposal : Governance.TextProposal) {initialDeposit : List Coin} (hdeposit : initialDeposit ≠ []) :
      InNameOf author ⟨.submitProposal, { content := proposal.content, initialDeposit, proposer := author.address }⟩
  | proposalDeposit (proposal : UInt64) (amount : List Coin) :
      InNameOf author ⟨.proposalDeposit, { proposal, depositor := author.address, amount }⟩
  | vote (proposal : UInt64) (option : Governance.VoteOption) :
      InNameOf author ⟨.vote, { proposal, voter := author.address, option }⟩
  | unjail : InNameOf author ⟨.unjail, { validator := author.address.inRole .validator }⟩
  | send (receiver : AccountAddress) (amount : List Coin) :
      InNameOf author ⟨.send, { sender := author.address, receiver, amount }⟩
  | multiSend (transfers : List Transfer.Payment) :
      InNameOf author ⟨.multiSend, { sender := author.address, transfers }⟩
  | channelTransfer (port : PortId) (channel : ChannelId) (token : Coin) (receiver : String) (timeoutHeight : Height)
      (timeoutTimestamp : UInt64) : InNameOf author ⟨.channelTransfer,
        { port, channel, token, sender := author.address, receiver, timeoutHeight, timeoutTimestamp }⟩

theorem Params.ne_nil_of_checkCoins {text : String} {coins : List Coin} (h : checkCoins text = .ok coins) :
    coins ≠ [] := by
  obtain ⟨parsed, -, hrest⟩ := bind_eq_ok.1 h
  obtain ⟨hfilled, hcoins⟩ := guard_eq_ok.1 hrest
  cases hcoins
  exact fun hnil => hfilled (List.isEmpty_iff.2 hnil)

theorem TxRequest.inNameOf_of_message {author : KeyInfo} {request : TxRequest} {message : Message}
    (h : request.message author = .ok message) : message.InNameOf author := by
  cases request with
  | deposit coin =>
    obtain ⟨quantity, -, hmessage⟩ := bind_eq_ok.1 h
    cases hmessage
    exact .stakingDeposit quantity
  | withdraw coin =>
    obtain ⟨quantity, -, hmessage⟩ := bind_eq_ok.1 h
    cases hmessage
    exact .stakingWithdraw quantity
  | addShares validators =>
    obtain ⟨addresses, -, hmessage⟩ := bind_eq_ok.1 h
    cases hmessage
    exact .addShares addresses
  | registerProxy =>
    cases h
    exact .registerProxy true
  | unregisterProxy =>
    cases h
    exact .registerProxy false
  | bindProxy proxy =>
    obtain ⟨address, -, hmessage⟩ := bind_eq_ok.1 h
    cases hmessage
    exact .bindProxy address
  | unbindProxy =>
    cases h
    exact .unbindProxy
  | createValidator publicKey description =>
    obtain ⟨key, -, hrest⟩ := bind_eq_ok.1 h
    obtain ⟨coin, -, hmessage⟩ := bind_eq_ok.1 hrest
    cases hmessage
    exact .createValidator description coin key
  | editValidator description =>
    cases h
    exact .editValidator description
  | destroyValidator =>
    cases h
    exact .destroyValidator
  | submitTextProposal title description coins =>
    obtain ⟨deposit, hdeposit, hmessage⟩ := bind_eq_ok.1 h
    cases hmessage
    exact .submitProposal ⟨title, description⟩ (Params.ne_nil_of_checkCoins hdeposit)
  | depositToProposal proposal coins =>
    obtain ⟨_, -, hrest⟩ := bind_eq_ok.1 h
    obtain ⟨amount, -, hmessage⟩ := bind_eq_ok.1 hrest
    cases hmessage
    exact .proposalDeposit proposal amount
  | vote proposal option =>
    obtain ⟨_, -, hrest⟩ := bind_eq_ok.1 h
    obtain ⟨choice, -, hmessage⟩ := bind_eq_ok.1 hrest
    cases hmessage
    exact .vote proposal choice
  | unjail =>
    cases h
    exact .unjail
  | send receiver coins =>
    obtain ⟨address, -, hrest⟩ := bind_eq_ok.1 h
    obtain ⟨amount, -, hmessage⟩ := bind_eq_ok.1 hrest
    cases hmessage
    exact .send address amount
  | multiSend payments =>
    cases h
    exact .multiSend payments
  | transfer channel receiver coin timeoutHeight =>
    obtain ⟨channelId, -, hrest⟩ := bind_eq_ok.1 h
    obtain ⟨token, -, hrest⟩ := bind_eq_ok.1 hrest
    obtain ⟨height, -, hmessage⟩ := bind_eq_ok.1 hrest
    cases hmessage
    exact .channelTransfer .transfer channelId token (Text.trim receiver) height 0

/-! ### Envelopes that are read back -/

/-- The only free-form value in a message in the name of a key is a text proposal, one object with two texts. -/
theorem Message.InNameOf.regular_freeForms {author : KeyInfo} {message : Message} (h : message.InNameOf author) :
    ∀ part ∈ message.kind.freeForms message.body, part.1 = 2 ∧ part.2.Regular 1 := by
  intro part hpart
  cases h with
  | submitProposal proposal =>
    cases List.mem_singleton.1 hpart
    exact ⟨rfl, (Governance.TextProposal.faithful_wire proposal).regular_json⟩
  | _ => exact absurd hpart List.not_mem_nil

theorem Message.InNameOf.faithful_wire {author : KeyInfo} {message : Message} (h : message.InNameOf author)
    {levels : Nat} (hlevels : 5 ≤ levels) : message.kind.wire.Faithful levels message.body := by
  refine MessageKind.faithful_wire hlevels fun part hpart => ?_
  obtain ⟨hdepth, hregular⟩ := h.regular_freeForms part hpart
  exact hregular.mono (by omega)

/-! ### Requests that reach the node -/

/-- The bytes that the node is handed for a request are read as a transaction around one message: the one that the request becomes in the name of the author's key, checked, written in an envelope from which it is read again, and signed with the key that the keyring holds under the author's name. -/
structure Submitted (session : Session) (author : Author) (request : TxRequest) (bytes : Bytes) (message : Message)
    (tx : Tx) : Prop where
  requested : request.message author.key = .ok message
  valid : message.kind.validate message.body = .ok ()
  decoded : ∃ codec, session.codec = some codec ∧ codec.decode (.json (.record .tx)) bytes = .ok tx
  messages : tx.messages = [message.kind.envelope message.body]
  readable : message.kind.wire.readJson (message.kind.envelope message.body).value = .ok message.body
  signed : SignedBy session author.key.name author.password author.accountNumber author.sequence tx

variable {session : Session} {signer password memo : String} {messages : List Envelope}
  {accountNumber sequence : UInt64} {author : Author} {request : TxRequest} {bytes : Bytes} {mode : BroadcastMode}

theorem eq_sent_of_broadcast_mem {codec : Codec} {simulations : List Node.Call} {gas : UInt64} {sent : Bytes}
    {sentMode : BroadcastMode} (hgas : GasLimit session codec messages memo simulations gas)
    (hcall : .broadcast bytes mode ∈ simulations ++ [.broadcast sent sentMode]) : bytes = sent := by
  rcases List.mem_append.1 hcall with hsimulation | hlast
  · obtain ⟨-, simulated, hquery⟩ := hgas.simulations.2 _ hsimulation
    cases hquery
  · cases List.mem_singleton.1 hlast
    rfl

theorem Broadcast.signed_of_mem {outcome : Except ClientError TxResponse × List Node.Call}
    (h : Broadcast session signer password memo messages accountNumber sequence outcome)
    (hmessages : ∀ m ∈ messages, m.value.Regular Tx.messageLevels) (hcall : .broadcast bytes mode ∈ outcome.2) :
    ∃ codec tx, session.codec = some codec ∧ codec.decode (.json (.record .tx)) bytes = .ok tx ∧
      tx.messages = messages ∧ SignedBy session signer password accountNumber sequence tx := by
  cases h with
  | refused e => exact absurd hcall List.not_mem_nil
  | abandoned => exact absurd hcall (by simp)
  | sent hnonempty hcodec hgas hsign hencode =>
    cases eq_sent_of_broadcast_mem hgas hcall
    obtain ⟨key, hkey, hsignature⟩ := map_eq_ok.1 hsign
    exact ⟨_, _, hcodec, Codec.decode_of_encode hencode (Tx.admits hmessages), rfl, key, hkey,
      congrArg (fun signature => [signature]) hsignature.symm⟩

/-- Whatever a request hands to the node is one signed transaction with its message. -/
theorem submitted_of_broadcast_mem (hcall : .broadcast bytes mode ∈ ((author.submit request).run session).2) :
    ∃ message tx, Submitted session author request bytes message tx := by
  rcases run_submit author request with ⟨e, he⟩ | ⟨message, codec, envelope, hmessage, hcodec, hvalid, henvelope, hrun⟩
  · rw [he] at hcall
    exact absurd hcall List.not_mem_nil
  have hname := TxRequest.inNameOf_of_message hmessage
  obtain ⟨-, rfl⟩ := Codec.toTxMessage_eq_ok_iff.1 henvelope
  have hregular : ∀ m ∈ [message.kind.envelope message.body], m.value.Regular Tx.messageLevels := by
    intro m hm
    cases List.mem_singleton.1 hm
    exact (hname.faithful_wire (by decide)).regular_json
  rw [hrun] at hcall
  obtain ⟨codec, tx, hcodec, hdecode, hmessages, hsigned⟩ := broadcast_signAndBroadcast.signed_of_mem hregular hcall
  exact ⟨message, tx, hmessage, hvalid, ⟨codec, hcodec, hdecode⟩, hmessages,
    (hname.faithful_wire (by decide)).readJson, hsigned⟩

/-! ### Requests that do reach it -/

theorem run_submit_of_valid {message : Message} {codec : Codec} (hname : Text.blank author.key.name = false)
    (hpassword : author.password.isEmpty = false) (hmessage : request.message author.key = .ok message)
    (hcodec : session.codec = some codec) (hvalid : message.kind.validate message.body = .ok ())
    (hregistered : codec.find? (.json (.message message.kind)) = some (.message message.kind)) :
    (author.submit request).run session = (signAndBroadcast author.key.name author.password author.memo
      [message.kind.envelope message.body] author.accountNumber author.sequence).run session := by
  have hkey : Params.checkKey author.key author.password = .ok () := by
    simp only [Params.checkKey, hname, hpassword]
    rfl
  rw [Operation.run_eq, Author.submit, runFrom_ofExcept_bind, hkey]
  dsimp only
  rw [runFrom_ofExcept_bind, hmessage]
  dsimp only
  rw [Author.broadcast, runFrom_bind, runFrom_codec, hcodec]
  dsimp only
  rw [runFrom_ofExcept_bind, hvalid]
  dsimp only [mapError_ok]
  rw [runFrom_ofExcept_bind, Codec.toTxMessage_eq_ok_iff.2 ⟨hregistered, rfl⟩]
  rfl

section Valid

variable {message : Message} {codec : Codec} {info : KeyInfo} {r : Registration}
  (hname : Text.blank author.key.name = false) (hpassword : author.password.isEmpty = false)
  (hmessage : request.message author.key = .ok message) (hcodec : session.codec = some codec)
  (hvalid : message.kind.validate message.body = .ok ())
  (hregistered : codec.find? (.json (.message message.kind)) = some (.message message.kind))
  (htx : codec.find? (.json (.record .tx)) = some r)
  (hunlock : session.keyring.unlock author.key.name author.password = .ok info) (hgas : session.config.gas ≠ 0)

include hname hpassword hmessage hcodec hvalid hregistered htx hunlock hgas

/-- A request whose message passes the check is one broadcast, when the key is unlocked, the codec knows the message and the settings give the gas limit. What comes of it is what the node answers. -/
theorem exists_run_submit_of_valid : ∃ bytes, (author.submit request).run session =
    (((session.node.answer [] (.broadcast bytes session.config.mode)).mapError Node.Failure.clientError).map
        fun answer => TxResponse.ofBroadcast answer session.config.mode,
      [.broadcast bytes session.config.mode]) := by
  obtain ⟨signature, hsign⟩ := Keyring.sign_of_unlock hunlock (SignDocument.bytes
    { accountNumber := author.accountNumber, chainId := session.config.chainId,
      fee := session.config.feeFor session.config.gas, memo := author.memo,
      messages := [message.kind.envelope message.body], sequence := author.sequence })
  rw [run_submit_of_valid hname hpassword hmessage hcodec hvalid hregistered, run_signAndBroadcast
    (List.cons_ne_nil _ _) hpassword hcodec hunlock (.fixed hgas) hsign (Codec.encode_eq_ok_iff.2 ⟨r, htx, rfl⟩)]
  exact ⟨_, rfl⟩

theorem exists_broadcast_of_valid :
    ∃ bytes, .broadcast bytes session.config.mode ∈ ((author.submit request).run session).2 := by
  obtain ⟨bytes, hrun⟩ :=
    exists_run_submit_of_valid hname hpassword hmessage hcodec hvalid hregistered htx hunlock hgas
  rw [hrun]
  exact ⟨bytes, List.mem_singleton_self _⟩

end Valid

/-! ### A client whose requests reach the node -/

namespace Sample

/-- The key pair of the sample key, with the address and the public key that belong to it. -/
def soundKey : StoredKey where
  keyPair := key.keyPair
  info := { name := "alice", address := key.keyPair.address, publicKey := key.keyPair.publicBytes }
  passwordDigest := key.passwordDigest

/-- Knows a message of staking, a message of governance and what all clients know. -/
def clientCodec : Codec :=
  ⟨.message .stakingDeposit :: .message .submitProposal :: Codec.basicRegistrations⟩

/-- A client with one key and a fixed gas limit. -/
def client : Session :=
  { config := { settings with gas := 200000 }, keyring := ⟨[soundKey]⟩, codec := some clientCodec, node }

/-- Who knows the name of the key and its password. -/
def writer (info : KeyInfo) : Author :=
  { key := info, password := "secret", memo := "hi", accountNumber := 3, sequence := 4 }

theorem unlocked_soundKey : client.keyring.unlocked "alice" "secret" = .ok soundKey := by
  have hfind : client.keyring.find? "alice" = some soundKey := rfl
  rw [Keyring.unlocked, hfind]
  exact if_pos rfl

theorem unlock_soundKey : client.keyring.unlock "alice" "secret" = .ok soundKey.info :=
  map_eq_ok.2 ⟨soundKey, unlocked_soundKey, rfl⟩

theorem exists_broadcast {info : KeyInfo} (hname : info.name = "alice") {request : TxRequest} {message : Message}
    (hmessage : request.message info = .ok message) (hvalid : message.kind.validate message.body = .ok ())
    (hregistered : clientCodec.find? (.json (.message message.kind)) = some (.message message.kind)) :
    ∃ bytes, .broadcast bytes .sync ∈ (((writer info).submit request).run client).2 := by
  have hkey : (writer info).key.name = "alice" := hname
  have hpassword : (writer info).password.isEmpty = false := by
    have hsecret : "secret".isEmpty = false := by decide
    exact hsecret
  have hblank : Text.blank (writer info).key.name = false := by
    rw [hkey]
    decide
  have hunlock : client.keyring.unlock (writer info).key.name (writer info).password = .ok soundKey.info := by
    rw [hkey]
    exact unlock_soundKey
  have hgas : client.config.gas ≠ 0 := by decide
  exact exists_broadcast_of_valid hblank hpassword hmessage rfl hvalid hregistered rfl hunlock hgas

theorem message_deposit (info : KeyInfo) : TxRequest.message info (.deposit "1okt") =
    .ok ⟨.stakingDeposit, { delegator := info.address, quantity := ⟨"okt", ⟨10 ^ 18⟩⟩ }⟩ := by
  have hcoin : Coin.parse "1okt" = .ok ⟨"okt", ⟨10 ^ 18⟩⟩ := by decide +kernel
  exact bind_eq_ok.2 ⟨_, mapError_eq_ok.2 hcoin, rfl⟩

end Sample

end ChainClient
