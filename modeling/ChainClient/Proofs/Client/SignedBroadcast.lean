import ChainClient.Proofs.Client.Transaction
import ChainClient.Proofs.Codec.RoundTrip

/-!
# What is broadcast is what was signed

The bytes that reach the node are decoded as a transaction whose only signature was made over the sign document of this very transaction: its messages, its memo, and its fee, which belongs to the gas limit that the settings give or the simulation led to. What the node simulated before is the same transaction without a signature.
-/

namespace ChainClient

open Operation

/-- The sign document of a transaction for an account of a chain. -/
def Tx.signDocument (tx : Tx) (chainId : String) (accountNumber sequence : UInt64) : SignDocument :=
  { accountNumber, chainId, fee := tx.fee, memo := tx.memo, messages := tx.messages, sequence }

/-- The only signature of the transaction was made with a key of the session over the sign document of the transaction. -/
def SignedBy (session : Session) (signer password : String) (accountNumber sequence : UInt64) (tx : Tx) : Prop :=
  ∃ key, session.keyring.unlocked signer password = .ok key ∧
    tx.signatures = [{
      publicKey := key.info.txPublicKey
      signature := Base64.encode
        (key.keyPair.sign (tx.signDocument session.config.chainId accountNumber sequence).bytes) }]

/-- The gas limit of the settings, or the adjusted gas that the one simulation used, of the same messages and memo without a signature. -/
def GasFound (session : Session) (codec : Codec) (messages : List Envelope) (memo : String)
    (simulations : List Node.Call) (gas : UInt64) : Prop :=
  (session.config.gas ≠ 0 ∧ gas = session.config.gas ∧ simulations = []) ∨
  (session.config.gas = 0 ∧ ∃ simulated answer info unsigned,
    simulations = [.query simulationPath simulated] ∧
    codec.decode (.json (.record .tx)) simulated = .ok unsigned ∧
    unsigned.messages = messages ∧ unsigned.memo = memo ∧ unsigned.signatures = [] ∧
    session.node.answer [] (.query simulationPath simulated) = .ok answer ∧
    GasInfo.simulationWire.readBytes answer.value = .ok info ∧
    gas = adjustGas session.config.gasAdjustment info.used (UInt64.ofNat (2 ^ 64 - 1)))

theorem Codec.decode_of_encode {codec : Codec} {type : JsonType} {value : type.Value} {bytes : Bytes}
    (h : codec.encode (.json type) value = .ok bytes) (hadmits : ∀ r : Registration, r.Admits value) :
    codec.decode (.json type) bytes = .ok value := by
  obtain ⟨r, hfind, rfl⟩ := Codec.encode_eq_ok_iff.1 h
  exact Codec.decode_eq_ok_iff.2 ⟨r, hfind, decodeAs_encodeAs (hadmits r)⟩

/-- How deep a free-form value may be nested in a message of a transaction: the envelopes of the message and the transaction, the list of messages and the transaction itself stand around it. -/
def Tx.messageLevels : Nat := 123

theorem Tx.admits {tx : Tx} (h : ∀ m ∈ tx.messages, m.value.Regular messageLevels) (r : Registration) :
    @Registration.Admits r (.record .tx) tx := by
  intro part hpart
  obtain ⟨m, hm, rfl⟩ := List.mem_map.1 hpart
  have hroom : 126 ≤ r.room := by cases r <;> simp [Registration.room, Wire.maxDepth]
  exact (h m hm).mono (by simp only [messageLevels]; omega)

variable {session : Session} {signer password memo : String} {messages : List Envelope}
  {accountNumber sequence : UInt64}

theorem GasLimit.found {codec : Codec} {simulations : List Node.Call} {gas : UInt64}
    (hmessages : ∀ m ∈ messages, m.value.Regular Tx.messageLevels)
    (h : GasLimit session codec messages memo simulations gas) : GasFound session codec messages memo simulations gas := by
  cases h with
  | fixed hgas => exact .inl ⟨hgas, rfl, rfl⟩
  | simulated hgas hencode hanswer hinfo =>
    exact .inr ⟨hgas, _, _, _, _, rfl, Codec.decode_of_encode hencode (Tx.admits hmessages), rfl, rfl, rfl, hanswer,
      hinfo, rfl⟩

/-- Whenever a broadcast is among the calls, it is the last one and carries what was signed. -/
theorem broadcast_carries_signed (hmessages : ∀ m ∈ messages, m.value.Regular Tx.messageLevels) {bytes : Bytes}
    {mode : BroadcastMode}
    (hcall : .broadcast bytes mode ∈
      ((signAndBroadcast signer password memo messages accountNumber sequence).run session).2) :
    ∃ codec tx simulations gas, session.codec = some codec ∧ codec.decode (.json (.record .tx)) bytes = .ok tx ∧
      tx.messages = messages ∧ tx.memo = memo ∧ tx.fee = session.config.feeFor gas ∧
      SignedBy session signer password accountNumber sequence tx ∧
      GasFound session codec messages memo simulations gas ∧
      ((signAndBroadcast signer password memo messages accountNumber sequence).run session).2 =
        simulations ++ [.broadcast bytes mode] := by
  have hbroadcast := @broadcast_signAndBroadcast session signer password memo messages accountNumber sequence
  generalize (signAndBroadcast signer password memo messages accountNumber sequence).run session = outcome
    at hbroadcast hcall
  cases hbroadcast with
  | refused e => exact absurd hcall List.not_mem_nil
  | abandoned => exact absurd hcall (by simp)
  | sent hnonempty hcodec hgas hsign hencode =>
    rename_i codec simulations gas signature sent
    obtain ⟨key, hkey, hsignature⟩ := map_eq_ok.1 hsign
    have hlast : Node.Call.broadcast bytes mode = .broadcast sent session.config.mode := by
      rcases List.mem_append.1 hcall with hsimulation | hlast
      · obtain ⟨-, simulated, hquery⟩ := hgas.simulations.2 _ hsimulation
        cases hquery
      · exact List.mem_singleton.1 hlast
    cases hlast
    have hdecode := Codec.decode_of_encode hencode (Tx.admits hmessages)
    refine ⟨codec, _, simulations, gas, hcodec, hdecode, rfl, rfl, rfl, ⟨key, hkey, ?_⟩, hgas.found hmessages, rfl⟩
    rw [← hsignature]
    rfl

theorem GasInfo.faithful_simulationWire (info : GasInfo) : simulationWire.Faithful 127 info :=
  Wire.faithful_record (by decide) rfl ⟨Wire.faithful_record (by decide) rfl (by simp), trivial⟩

open Sample in
/-- In the sample session the transaction is broadcast after a simulation. -/
theorem broadcast_carries_signed_note : ∃ bytes,
    .broadcast bytes .sync ∈ ((signAndBroadcast "alice" "secret" "hi" [note] 3 4).run online).2 ∧
    ∃ tx simulations gas, codec.decode (.json (.record .tx)) bytes = .ok tx ∧
      tx.messages = [note] ∧ tx.memo = "hi" ∧ tx.fee = settings.feeFor gas ∧
      SignedBy online "alice" "secret" 3 4 tx ∧ GasFound online codec [note] "hi" simulations gas ∧
      ((signAndBroadcast "alice" "secret" "hi" [note] 3 4).run online).2 = simulations ++ [.broadcast bytes .sync] := by
  have hregular : ∀ m ∈ [note], m.value.Regular Tx.messageLevels := by
    intro m hm
    cases List.mem_singleton.1 hm
    exact ⟨by simp [note, Json.Ordered, Json.OrderedFields, Json.Ascending],
      by simp [note, Json.Plain, Json.PlainFields, Tx.messageLevels]⟩
  have hunlock : online.keyring.unlock "alice" "secret" = .ok key.info := by
    rw [Keyring.unlock, unlocked_key]
    rfl
  have hinfo : GasInfo.simulationWire.readBytes (GasInfo.simulationWire.bytes ⟨2000, 1000⟩) = .ok ⟨2000, 1000⟩ :=
    (GasInfo.faithful_simulationWire _).readBytes
  obtain ⟨simulations, gas, hgas⟩ : ∃ simulations gas, GasLimit online codec [note] "hi" simulations gas :=
    ⟨_, _, .simulated rfl rfl rfl hinfo⟩
  obtain ⟨signature, hsign⟩ := Keyring.sign_of_unlock hunlock (SignDocument.bytes
    { accountNumber := 3, chainId := "exchain-66", fee := settings.feeFor gas, memo := "hi", messages := [note],
      sequence := 4 })
  have hrun := run_signAndBroadcast (List.cons_ne_nil _ _) (by decide) rfl hunlock hgas hsign rfl
  obtain ⟨bytes, hcall⟩ : ∃ bytes,
      .broadcast bytes .sync ∈ ((signAndBroadcast "alice" "secret" "hi" [note] 3 4).run online).2 := by
    rw [hrun]
    exact ⟨_, List.mem_append_right _ (List.mem_singleton_self _)⟩
  obtain ⟨found, tx, asked, limit, hcodec, hrest⟩ := broadcast_carries_signed hregular hcall
  cases hcodec
  exact ⟨bytes, hcall, tx, asked, limit, hrest⟩

end ChainClient
