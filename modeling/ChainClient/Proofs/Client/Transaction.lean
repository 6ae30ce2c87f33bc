import Mathlib.Algebra.Group.Nat.Defs
import ChainClient.Client.Transaction
import ChainClient.Proofs.Client.Operation

/-!
# What a transaction operation does

A transaction operation ends in one of three ways: it is refused before the node hears of it, it is given up after the simulation for a reason that is not in its input, or it hands one signed transaction to the node. The last case says all that went into the transaction.
-/

namespace ChainClient

open Operation

/-- The calls by which the gas limit of a transaction is found, and the limit. -/
inductive GasLimit (session : Session) (codec : Codec) (messages : List Envelope) (memo : String) :
    List Node.Call → UInt64 → Prop where
  | fixed (hgas : session.config.gas ≠ 0) : GasLimit session codec messages memo [] session.config.gas
  | simulated (hgas : session.config.gas = 0) {bytes : Bytes} {answer : Node.QueryResult} {info : GasInfo}
      (hencode : codec.encode (.json (.record .tx)) (Tx.unsigned messages (session.config.feeFor 0) memo) = .ok bytes)
      (hanswer : session.node.answer [] (.query simulationPath bytes) = .ok answer)
      (hinfo : GasInfo.simulationWire.readBytes answer.value = .ok info) :
      GasLimit session codec messages memo [.query simulationPath bytes]
        (adjustGas session.config.gasAdjustment info.used (UInt64.ofNat (2 ^ 64 - 1)))

/-- The ways in which signing and broadcasting messages ends. -/
inductive Broadcast (session : Session) (signer password memo : String) (messages : List Envelope)
    (accountNumber sequence : UInt64) : Except ClientError TxResponse × List Node.Call → Prop where
  | refused (e : ClientError) :
      Broadcast session signer password memo messages accountNumber sequence (.error e, [])
  | abandoned {e : ClientError} (he : e.blamesInput = false) (hgas : session.config.gas = 0) {codec : Codec}
      (hcodec : session.codec = some codec) {bytes : Bytes}
      (hencode : codec.encode (.json (.record .tx)) (Tx.unsigned messages (session.config.feeFor 0) memo) = .ok bytes) :
      Broadcast session signer password memo messages accountNumber sequence (.error e, [.query simulationPath bytes])
  | sent (hmessages : messages ≠ []) {codec : Codec} (hcodec : session.codec = some codec) {simulations : List Node.Call}
      {gas : UInt64} (hgas : GasLimit session codec messages memo simulations gas) {signature : Signature}
      (hsign : session.keyring.sign signer password (SignDocument.bytes
        { accountNumber, chainId := session.config.chainId, fee := session.config.feeFor gas, memo, messages,
          sequence }) = .ok signature)
      {bytes : Bytes}
      (hencode : codec.encode (.json (.record .tx))
        { messages, fee := session.config.feeFor gas, signatures := [signature], memo } = .ok bytes) :
      Broadcast session signer password memo messages accountNumber sequence
        (((session.node.answer simulations (.broadcast bytes session.config.mode)).mapError
            Node.Failure.clientError).map fun answer => TxResponse.ofBroadcast answer session.config.mode,
          simulations ++ [.broadcast bytes session.config.mode])

variable {session : Session} {signer password memo : String} {messages : List Envelope}
  {accountNumber sequence : UInt64}

theorem GasLimit.simulations {codec : Codec} {simulations : List Node.Call} {gas : UInt64}
    (h : GasLimit session codec messages memo simulations gas) :
    simulations.length ≤ 1 ∧
      ∀ call ∈ simulations, session.config.gas = 0 ∧ ∃ bytes, call = .query simulationPath bytes := by
  cases h with
  | fixed => simp
  | simulated hgas => simp [hgas]

/-- A failure once the gas limit is found. -/
theorem GasLimit.broadcast_error {codec : Codec} {simulations : List Node.Call} {gas : UInt64} {e : ClientError}
    (hcodec : session.codec = some codec) (he : e.blamesInput = false)
    (h : GasLimit session codec messages memo simulations gas) :
    Broadcast session signer password memo messages accountNumber sequence (.error e, simulations) := by
  cases h with
  | fixed => exact .refused e
  | simulated hgas hencode => exact .abandoned he hgas hcodec hencode

theorem Codec.blamesInput_of_encode {codec : Codec} {type : DataType} {value : type.Value} {e : ClientError}
    (h : codec.encode type value = .error e) : e.blamesInput = false := by
  unfold Codec.encode Codec.registration at h
  split at h
  · cases h
  · cases h
    rfl

/-- Who has unlocked a key can sign with it. -/
theorem Keyring.sign_of_unlock {ring : Keyring} {name : String} {info : KeyInfo}
    (h : ring.unlock name password = .ok info) (message : Bytes) :
    ∃ signature, ring.sign name password message = .ok signature := by
  obtain ⟨key, hkey, -⟩ := map_eq_ok.1 h
  exact ⟨_, map_eq_ok.2 ⟨key, hkey, rfl⟩⟩

/-- What is left to do once the gas limit is found. -/
def sendWithLimit (session : Session) (codec : Codec) (signer password memo : String) (messages : List Envelope)
    (accountNumber sequence gas : UInt64) : Operation TxResponse := do
  let signature ← Operation.ofExcept (session.keyring.sign signer password (SignDocument.bytes
    { accountNumber, chainId := session.config.chainId, fee := session.config.feeFor gas, memo, messages, sequence }))
  let bytes ← Operation.ofExcept (codec.encode (.json (.record .tx))
    { messages, fee := session.config.feeFor gas, signatures := [signature], memo })
  let result ← Operation.ask (.broadcast bytes session.config.mode)
  return TxResponse.ofBroadcast result session.config.mode

/-- How the gas limit is found. -/
def findLimit (session : Session) (codec : Codec) (messages : List Envelope) (memo : String) : Operation UInt64 :=
  if session.config.gas = 0 then estimateGas codec (Tx.unsigned messages (session.config.feeFor 0) memo)
  else pure session.config.gas

theorem run_signAndBroadcast_of_unlock (hmessages : messages ≠ []) (hpassword : password.isEmpty = false) {codec : Codec}
    (hcodec : session.codec = some codec) {info : KeyInfo}
    (hunlock : session.keyring.unlock signer password = .ok info) :
    (signAndBroadcast signer password memo messages accountNumber sequence).run session =
      (findLimit session codec messages memo >>=
        sendWithLimit session codec signer password memo messages accountNumber sequence).runFrom session [] := by
  have hnonempty : ¬ messages.isEmpty = true := by simpa using hmessages
  have hfilled : ¬ password.isEmpty = true := by simp [hpassword]
  rw [Operation.run_eq, signAndBroadcast, if_neg hnonempty, if_neg hfilled, runFrom_read_bind, runFrom_bind,
    runFrom_codec, hcodec]
  dsimp only
  rw [runFrom_ofExcept_bind, hunlock, findLimit]
  by_cases hgas : session.config.gas = 0
  · simp only [if_pos hgas]
    rfl
  · simp only [if_neg hgas]
    rfl

theorem runFrom_sendWithLimit {codec : Codec} {simulations : List Node.Call} {gas : UInt64} {signature : Signature}
    (hsign : session.keyring.sign signer password (SignDocument.bytes
      { accountNumber, chainId := session.config.chainId, fee := session.config.feeFor gas, memo, messages,
        sequence }) = .ok signature)
    {bytes : Bytes}
    (hencode : codec.encode (.json (.record .tx))
      { messages, fee := session.config.feeFor gas, signatures := [signature], memo } = .ok bytes) :
    (sendWithLimit session codec signer password memo messages accountNumber sequence gas).runFrom session simulations =
      (((session.node.answer simulations (.broadcast bytes session.config.mode)).mapError
          Node.Failure.clientError).map fun answer => TxResponse.ofBroadcast answer session.config.mode,
        simulations ++ [.broadcast bytes session.config.mode]) := by
  rw [sendWithLimit, runFrom_ofExcept_bind, hsign]
  dsimp only
  rw [runFrom_ofExcept_bind, hencode]
  dsimp only
  rw [runFrom_ask_bind]
  cases session.node.answer simulations (.broadcast bytes session.config.mode) <;> rfl

/-- The gas limit is refused before the simulation, fails with it, or is found. -/
theorem findLimit_cases (session : Session) (codec : Codec) (messages : List Envelope) (memo : String) :
    let search := (findLimit session codec messages memo).runFrom session []
    (∃ e, search = (.error e, [])) ∨
    (∃ e bytes, e.blamesInput = false ∧ session.config.gas = 0 ∧
      codec.encode (.json (.record .tx)) (Tx.unsigned messages (session.config.feeFor 0) memo) = .ok bytes ∧
      search = (.error e, [.query simulationPath bytes])) ∨
    (∃ gas simulations, GasLimit session codec messages memo simulations gas ∧ search = (.ok gas, simulations)) := by
  intro search
  have hsearch : search = (findLimit session codec messages memo).runFrom session [] := rfl
  by_cases hgas : session.config.gas = 0
  · rw [findLimit, if_pos hgas, estimateGas, runFrom_read_bind, runFrom_ofExcept_bind] at hsearch
    cases hencode : codec.encode (.json (.record .tx)) (Tx.unsigned messages (session.config.feeFor 0) memo) with
    | error e =>
      rw [hencode] at hsearch
      exact .inl ⟨e, hsearch⟩
    | ok bytes =>
      rw [hencode] at hsearch
      dsimp only at hsearch
      rw [runFrom_ask_bind] at hsearch
      refine .inr ?_
      cases hanswer : session.node.answer [] (.query simulationPath bytes) with
      | error failure =>
        rw [hanswer] at hsearch
        exact .inl ⟨_, bytes, failure.blamesInput_clientError, hgas, rfl, hsearch⟩
      | ok answer =>
        rw [hanswer] at hsearch
        cases hinfo : GasInfo.simulationWire.readBytes answer.value with
        | error e =>
          simp only [hinfo] at hsearch
          exact .inl ⟨_, bytes, rfl, hgas, rfl, hsearch⟩
        | ok info =>
          simp only [hinfo] at hsearch
          exact .inr ⟨_, _, .simulated hgas hencode hanswer hinfo, hsearch⟩
  · rw [findLimit, if_neg hgas] at hsearch
    exact .inr (.inr ⟨_, _, .fixed hgas, hsearch⟩)

theorem runFrom_findLimit {codec : Codec} {simulations : List Node.Call} {gas : UInt64}
    (h : GasLimit session codec messages memo simulations gas) :
    (findLimit session codec messages memo).runFrom session [] = (.ok gas, simulations) := by
  cases h with
  | fixed hgas => rw [findLimit, if_neg hgas, runFrom_pure]
  | simulated hgas hencode hanswer hinfo =>
    rw [findLimit, if_pos hgas, estimateGas, runFrom_read_bind, runFrom_ofExcept_bind, hencode]
    dsimp only
    rw [runFrom_ask_bind, hanswer]
    simp only [hinfo]
    rfl

theorem broadcast_sendWithLimit {codec : Codec} {info : KeyInfo} {simulations : List Node.Call} {gas : UInt64}
    (hmessages : messages ≠ []) (hcodec : session.codec = some codec)
    (hunlock : session.keyring.unlock signer password = .ok info)
    (hgas : GasLimit session codec messages memo simulations gas) :
    Broadcast session signer password memo messages accountNumber sequence
      ((sendWithLimit session codec signer password memo messages accountNumber sequence gas).runFrom session
        simulations) := by
  obtain ⟨signature, hsign⟩ := Keyring.sign_of_unlock hunlock (SignDocument.bytes
    { accountNumber, chainId := session.config.chainId, fee := session.config.feeFor gas, memo, messages, sequence })
  cases hencode : codec.encode (.json (.record .tx))
      { messages, fee := session.config.feeFor gas, signatures := [signature], memo } with
  | error e =>
    rw [sendWithLimit, runFrom_ofExcept_bind, hsign]
    dsimp only
    rw [runFrom_ofExcept_bind, hencode]
    exact hgas.broadcast_error hcodec (Codec.blamesInput_of_encode hencode)
  | ok bytes =>
    rw [runFrom_sendWithLimit hsign hencode]
    exact .sent hmessages hcodec hgas hsign hencode

/-- Before anything is asked, there must be messages, a password, a codec and a key that the password unlocks. -/
theorem refused_or_unlocked :
    (∃ e, (signAndBroadcast signer password memo messages accountNumber sequence).run session = (.error e, [])) ∨
    (messages ≠ [] ∧ password.isEmpty = false ∧ ∃ codec info, session.codec = some codec ∧
      session.keyring.unlock signer password = .ok info) := by
  rw [Operation.run_eq, signAndBroadcast]
  by_cases hmessages : messages.isEmpty
  · rw [if_pos hmessages]
    exact .inl ⟨.emptyMessages, rfl⟩
  rw [if_neg hmessages]
  by_cases hpassword : password.isEmpty
  · rw [if_pos hpassword]
    exact .inl ⟨.emptyPassword, rfl⟩
  rw [if_neg hpassword, runFrom_read_bind]
  rcases codec_bind_cases _ session [] with he | ⟨codec, hcodec, hrun⟩
  · exact .inl ⟨_, he⟩
  rw [hrun]
  rcases ofExcept_bind_cases (session.keyring.unlock signer password) _ session [] with
    ⟨e, he⟩ | ⟨info, hunlock, -⟩
  · exact .inl ⟨e, he⟩
  exact .inr ⟨by simpa using hmessages, by simpa using hpassword, codec, info, hcodec, hunlock⟩

theorem broadcast_signAndBroadcast : Broadcast session signer password memo messages accountNumber sequence
    ((signAndBroadcast signer password memo messages accountNumber sequence).run session) := by
  rcases @refused_or_unlocked session signer password memo messages accountNumber sequence with
    ⟨e, he⟩ | ⟨hmessages, hpassword, codec, info, hcodec, hunlock⟩
  · rw [he]
    exact .refused e
  rw [run_signAndBroadcast_of_unlock hmessages hpassword hcodec hunlock, runFrom_bind]
  rcases findLimit_cases session codec messages memo with
    ⟨e, he⟩ | ⟨e, bytes, hblames, hgas, hencode, he⟩ | ⟨gas, simulations, hlimit, he⟩
  · rw [he]
    exact .refused e
  · rw [he]
    exact .abandoned hblames hgas hcodec hencode
  · rw [he]
    exact broadcast_sendWithLimit hmessages hcodec hunlock hlimit

/-- Messages that are there, from a key that is unlocked, are signed and handed to the node once the gas limit is found. -/
theorem run_signAndBroadcast (hmessages : messages ≠ []) (hpassword : password.isEmpty = false) {codec : Codec}
    (hcodec : session.codec = some codec) {info : KeyInfo}
    (hunlock : session.keyring.unlock signer password = .ok info) {simulations : List Node.Call} {gas : UInt64}
    (hgas : GasLimit session codec messages memo simulations gas) {signature : Signature}
    (hsign : session.keyring.sign signer password (SignDocument.bytes
      { accountNumber, chainId := session.config.chainId, fee := session.config.feeFor gas, memo, messages,
        sequence }) = .ok signature)
    {bytes : Bytes}
    (hencode : codec.encode (.json (.record .tx))
      { messages, fee := session.config.feeFor gas, signatures := [signature], memo } = .ok bytes) :
    (signAndBroadcast signer password memo messages accountNumber sequence).run session =
      (((session.node.answer simulations (.broadcast bytes session.config.mode)).mapError
          Node.Failure.clientError).map fun answer => TxResponse.ofBroadcast answer session.config.mode,
        simulations ++ [.broadcast bytes session.config.mode]) := by
  rw [run_signAndBroadcast_of_unlock hmessages hpassword hcodec hunlock, runFrom_bind, runFrom_findLimit hgas]
  exact runFrom_sendWithLimit hsign hencode

/-- A request is refused before the node hears of it, or its message is signed and broadcast alone. -/
theorem run_submit (author : Author) (request : TxRequest) :
    (∃ e, (author.submit request).run session = (.error e, [])) ∨
    ∃ message codec envelope, request.message author.key = .ok message ∧ session.codec = some codec ∧
      message.kind.validate message.body = .ok () ∧ codec.toTxMessage message.kind message.body = .ok envelope ∧
      (author.submit request).run session =
        (signAndBroadcast author.key.name author.password author.memo [envelope] author.accountNumber
          author.sequence).run session := by
  rw [Operation.run_eq, Author.submit]
  rcases ofExcept_bind_cases (Params.checkKey author.key author.password) _ session [] with
    ⟨e, he⟩ | ⟨_, -, hkey⟩
  · exact .inl ⟨e, he⟩
  rw [hkey]
  rcases ofExcept_bind_cases (request.message author.key) _ session [] with ⟨e, he⟩ | ⟨message, hmessage, hrun⟩
  · exact .inl ⟨e, he⟩
  rw [hrun, Author.broadcast]
  rcases codec_bind_cases _ session [] with he | ⟨codec, hcodec, hrun⟩
  · exact .inl ⟨_, he⟩
  rw [hrun]
  rcases ofExcept_bind_cases ((message.kind.validate message.body).mapError .value) _ session [] with
    ⟨e, he⟩ | ⟨_, hvalid, hrun⟩
  · exact .inl ⟨e, he⟩
  rw [hrun]
  rcases ofExcept_bind_cases (codec.toTxMessage message.kind message.body) _ session [] with
    ⟨e, he⟩ | ⟨envelope, henvelope, hrun⟩
  · exact .inl ⟨e, he⟩
  rw [hrun]
  exact .inr ⟨message, codec, envelope, hmessage, hcodec, mapError_eq_ok.1 hvalid, henvelope, rfl⟩

/-! ### A session in which a transaction is sent -/

namespace Sample

def settings : ClientConfig where
  nodeUri := "http://localhost:26657"
  chainId := "exchain-66"
  mode := .sync
  fees := []
  gas := 0
  gasAdjustment := .one
  gasPrices := [⟨"okt", ⟨10 ^ 9⟩⟩]

def key : StoredKey where
  keyPair := ⟨7⟩
  info := { name := "alice", address := Address.ofFirst [1, 2], publicKey := [2, 3] }
  passwordDigest := Sha256.hash (Bytes.ofText "secret")

/-- A node that uses a thousand units of gas in every simulation and accepts every transaction. -/
def node : Node where
  answer
    | _, .query _ _ => .ok ⟨GasInfo.simulationWire.bytes ⟨2000, 1000⟩, 5⟩
    | _, .broadcast _ _ => .ok ⟨"AB", 0, .empty, none⟩
    | _, call => .error (.rpc call.operation)

def codec : Codec := ⟨Codec.basicRegistrations⟩

def online : Session := { config := settings, keyring := ⟨[key]⟩, codec := some codec, node }

def note : Envelope := ⟨"okexchain/gov/Note", .obj [("text", .str "say \"no\"\n")]⟩

theorem unlocked_key : online.keyring.unlocked "alice" "secret" = .ok key := by
  have hfind : online.keyring.find? "alice" = some key := rfl
  rw [Keyring.unlocked, hfind]
  exact if_pos rfl

end Sample

end ChainClient
