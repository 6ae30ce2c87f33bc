import ChainClient.Proofs.Client.Queries
import ChainClient.Proofs.Client.Transaction

/-!
# What a node gets to see

An operation that fails through a fault of its input has not called the node at all. An operation that sends a transaction broadcasts at most once and as its last call, after at most one simulation, which there only is when the settings leave the gas limit open, and it succeeds only with the answer to its broadcast.
-/

namespace ChainClient

open Operation

/-- The operations that send a transaction: the requests of the modules, and signing and broadcasting messages directly. -/
inductive SendsTx : Operation TxResponse → Prop where
  | submit (author : Author) (request : TxRequest) : SendsTx (author.submit request)
  | signAndBroadcast (signer password memo : String) (messages : List Envelope) (accountNumber sequence : UInt64) :
      SendsTx (signAndBroadcast signer password memo messages accountNumber sequence)

/-- The operations of the modules and of the base they share: queries, among them those at any path whose answer is read as any type, and the operations that send a transaction. -/
inductive Offered : {α : Type} → Operation α → Prop where
  | perform (query : Query) : Offered query.perform
  | decoded (path : String) (data : Bytes) (type : DataType) : Offered (Query.decoded path data type)
  | invoked (path : String) (data : Bytes) (type : DataType) : Offered (Query.invoked path data type)
  | sends {operation : Operation TxResponse} (h : SendsTx operation) : Offered operation

/-- An outcome with at most one simulation and then at most one broadcast among its calls. -/
structure SingleBroadcast (session : Session) (outcome : Except ClientError TxResponse × List Node.Call)
    (simulations broadcasts : List Node.Call) : Prop where
  calls : outcome.2 = simulations ++ broadcasts
  length_simulations : simulations.length ≤ 1
  simulation : ∀ call ∈ simulations, session.config.gas = 0 ∧ ∃ bytes, call = .query simulationPath bytes
  length_broadcasts : broadcasts.length ≤ 1
  broadcast : ∀ call ∈ broadcasts, call.isBroadcast
  /-- A success hands on the answer to the broadcast. -/
  success : ∀ response, outcome.1 = .ok response → ∃ bytes answer,
    broadcasts = [.broadcast bytes session.config.mode] ∧
    session.node.answer simulations (.broadcast bytes session.config.mode) = .ok answer ∧
    response = TxResponse.ofBroadcast answer session.config.mode

theorem singleBroadcast_error {session : Session} (e : ClientError) : SingleBroadcast session (.error e, []) [] [] :=
  ⟨rfl, by simp, by simp, by simp, by simp, fun _ h => by cases h⟩

variable {session : Session} {signer password memo : String} {messages : List Envelope}
  {accountNumber sequence : UInt64} {outcome : Except ClientError TxResponse × List Node.Call}

theorem Broadcast.singleBroadcast
    (h : Broadcast session signer password memo messages accountNumber sequence outcome) :
    ∃ simulations broadcasts, SingleBroadcast session outcome simulations broadcasts := by
  cases h with
  | refused e => exact ⟨[], [], singleBroadcast_error e⟩
  | abandoned he hgas hcodec hencode =>
    exact ⟨[_], [], rfl, by simp, by simp [hgas], by simp, by simp, fun _ h => by cases h⟩
  | sent hmessages hcodec hgas hsign hencode =>
    obtain ⟨hlength, hsimulations⟩ := hgas.simulations
    refine ⟨_, _, rfl, hlength, hsimulations, Nat.le_refl 1, by simp [Node.Call.isBroadcast], fun response hok => ?_⟩
    obtain ⟨answer, hanswer, hresponse⟩ := map_eq_ok.1 hok
    exact ⟨_, answer, rfl, mapError_eq_ok.1 hanswer, hresponse.symm⟩

theorem Broadcast.calls_eq_nil
    (h : Broadcast session signer password memo messages accountNumber sequence outcome) {e : ClientError}
    (he : outcome.1 = .error e) (hblames : e.blamesInput) : outcome.2 = [] := by
  cases h with
  | refused e => rfl
  | abandoned hinnocent hgas hcodec hencode =>
    cases he
    rw [hinnocent] at hblames
    cases hblames
  | sent hmessages hcodec hgas hsign hencode =>
    rename_i codec simulations gas signature bytes
    dsimp only at he
    cases hanswer : session.node.answer simulations (.broadcast bytes session.config.mode) with
    | ok answer =>
      rw [hanswer] at he
      cases he
    | error failure =>
      rw [hanswer] at he
      cases he
      rw [failure.blamesInput_clientError] at hblames
      cases hblames

theorem SendsTx.run_cases {operation : Operation TxResponse} (h : SendsTx operation) (session : Session) :
    (∃ e, operation.run session = (.error e, [])) ∨
    ∃ signer password memo messages accountNumber sequence,
      Broadcast session signer password memo messages accountNumber sequence (operation.run session) := by
  cases h with
  | submit author request =>
    rcases run_submit author request with herror | ⟨_, _, _, -, -, -, -, hrun⟩
    · exact .inl herror
    · rw [hrun]
      exact .inr ⟨_, _, _, _, _, _, broadcast_signAndBroadcast⟩
  | signAndBroadcast => exact .inr ⟨_, _, _, _, _, _, broadcast_signAndBroadcast⟩

/-- Invalid input never reaches the node, and a transaction is handed to it once, last, and for good. -/
theorem node_traffic (session : Session) :
    (∀ {α : Type} {operation : Operation α} {e : ClientError}, Offered operation →
      (operation.run session).1 = .error e → e.blamesInput → (operation.run session).2 = []) ∧
    ∀ {operation : Operation TxResponse}, SendsTx operation →
      ∃ simulations broadcasts, SingleBroadcast session (operation.run session) simulations broadcasts := by
  refine ⟨fun hoffered he hblames => ?_, fun hsends => ?_⟩
  · cases hoffered with
    | perform query => exact Query.careful_perform query [] _ he hblames
    | decoded path data type => exact (Query.blameless_decoded path data type).careful [] _ he hblames
    | invoked path data type => exact (Query.blameless_invoked path data type).careful [] _ he hblames
    | sends hsends =>
      rcases hsends.run_cases session with ⟨e', he'⟩ | ⟨_, _, _, _, _, _, hbroadcast⟩
      · rw [he']
      · exact hbroadcast.calls_eq_nil he hblames
  · rcases hsends.run_cases session with ⟨e, he⟩ | ⟨_, _, _, _, _, _, hbroadcast⟩
    · rw [he]
      exact ⟨[], [], singleBroadcast_error e⟩
    · exact hbroadcast.singleBroadcast

open Sample in
/-- A key that is not in the keyring is noticed before the node is asked to simulate. -/
theorem node_traffic_online :
    ((signAndBroadcast "bob" "secret" "hi" [note] 3 4).run online).1 = .error (.keyNotFound "bob") ∧
    ((signAndBroadcast "bob" "secret" "hi" [note] 3 4).run online).2 = [] ∧
    ∃ simulations broadcasts, SingleBroadcast online
      ((signAndBroadcast "alice" "secret" "hi" [note] 3 4).run online) simulations broadcasts := by
  have hunknown : ((signAndBroadcast "bob" "secret" "hi" [note] 3 4).run online).1 = .error (.keyNotFound "bob") := rfl
  obtain ⟨hinput, hsingle⟩ := node_traffic online
  exact ⟨hunknown, hinput (.sends (.signAndBroadcast _ _ _ _ _ _)) hunknown rfl, hsingle (.signAndBroadcast _ _ _ _ _ _)⟩

end ChainClient
