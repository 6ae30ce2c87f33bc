import ChainClient.Proofs.Client.Traffic
import ChainClient.Proofs.Rpc.Answer
import ChainClient.Proofs.Tx.Outcome
import ChainClient.Rpc.Client

/-!
# What became of a broadcast

A server says what became of a transaction in one of three forms, one for each mode. Two of them are a receipt, which knows of the check only, and the third is an inclusion with both phases. The response that a client hands on reports what the server said in every mode, whoever built the transaction and whatever had reached the server before, so no failure that a server tells of is ever reported as a success.
-/

namespace ChainClient

namespace Rpc

/-! ### What a server says -/

def Execution.phase (e : Execution) : Phase :=
  ⟨e.code, e.codespace, e.data, e.log, e.info, e.gasWanted, e.gasUsed⟩

/-- A receipt knows neither of gas nor of a height. -/
def Receipt.verdict (r : Receipt) : Verdict where
  check := ⟨r.code, r.codespace, r.data, r.log, "", 0, 0⟩
  delivery := none
  hash := Hex.encodeUpper r.hash
  height := 0

def Inclusion.verdict (i : Inclusion) : Verdict where
  check := i.check.execution.phase
  delivery := some i.delivery.phase
  hash := Hex.encodeUpper i.hash
  height := i.height

/-- What the body of a reply to a broadcast says about the transaction. -/
def verdictOf? (body : Bytes) : BroadcastMode → Option Verdict
  | .sync | .async => (resultOf? Receipt.wire body).map Receipt.verdict
  | .block => (resultOf? Inclusion.wire body).map Inclusion.verdict

theorem verdictOf?_receipt {receipt : Receipt} (hhash : IsDigest receipt.hash) {id : Json} (hid : id.Regular 126)
    {mode : BroadcastMode} (hmode : mode ≠ .block) :
    verdictOf? (Reply.body id (Receipt.wire.write receipt)) mode = some receipt.verdict := by
  have hfaithful : Receipt.wire.Faithful 126 receipt := Receipt.faithful_wire hhash
  have hread : Receipt.wire.read 126 (Receipt.wire.write receipt).document = .ok receipt :=
    hfaithful.reads .declared (Nat.le_refl _)
  have hresult : resultOf? Receipt.wire (Reply.body id (Receipt.wire.write receipt)) = some receipt :=
    resultOf?_body hid hfaithful.plain Json.noConfusion hread
  cases mode with
  | sync | async => exact Option.map_eq_some_iff.2 ⟨receipt, hresult, rfl⟩
  | block => exact absurd rfl hmode

theorem verdictOf?_inclusion {inclusion : Inclusion} (h : inclusion.Sound) {id : Json} (hid : id.Regular 126)
    {key : String} (hkey : key = "deliver_tx" ∨ key = "tx_result") :
    verdictOf? (Reply.body id (inclusion.json key)) .block = some inclusion.verdict := by
  have hplain : (inclusion.json key).Plain 126 := (Inclusion.plain_json h key).mono (by decide)
  have hread : Inclusion.wire.read 126 (inclusion.json key).document = .ok inclusion :=
    Inclusion.read_json h hkey (by decide)
  exact Option.map_eq_some_iff.2 ⟨inclusion, resultOf?_body hid hplain Json.noConfusion hread, rfl⟩

/-! ### What a client makes of it -/

namespace Exchange

variable {α β : Type} {server : Server} {earlier : List Request}

/-- The result when some requests have reached the server before. -/
def resultFrom (exchange : Exchange α) (server : Server) (earlier : List Request) : Except ClientError α :=
  ((ReaderT.run exchange server).run.run earlier).1

theorem fst_run (exchange : Exchange α) (server : Server) : (exchange.run server).1 = exchange.resultFrom server [] := rfl

@[simp] theorem resultFrom_pure (value : α) : resultFrom (pure value) server earlier = .ok value := rfl

@[simp] theorem resultFrom_throw (e : ClientError) : resultFrom (throw e : Exchange α) server earlier = .error e := rfl

@[simp] theorem resultFrom_read_bind (next : Server → Exchange α) :
    resultFrom (read >>= next) server earlier = (next server).resultFrom server earlier := rfl

@[simp] theorem resultFrom_get_bind (next : List Request → Exchange α) :
    resultFrom (get >>= next) server earlier = (next earlier).resultFrom server earlier := rfl

@[simp] theorem resultFrom_set_bind (requests : List Request) (next : PUnit → Exchange α) :
    resultFrom (set requests >>= next) server earlier = (next ⟨⟩).resultFrom server requests := rfl

theorem resultFrom_map (exchange : Exchange α) (f : α → β) :
    (f <$> exchange).resultFrom server earlier = (exchange.resultFrom server earlier).map f := by
  rcases h : (ReaderT.run exchange server).run.run earlier with ⟨result, requests⟩
  simp only [resultFrom, ReaderT.run_map, ExceptT.run_map, StateT.run_map, h]
  cases result <;> rfl

/-- Only a reply with a result settles a question. -/
theorem resultFrom_ask_eq_ok_iff {operation method : String} {wire : Wire α} {params : Json} {value : α} :
    (ask operation wire method params).resultFrom server earlier = .ok value ↔
      ∃ body, server.outcome earlier ⟨method, params⟩ = .replied body ∧ resultOf? wire body = some value := by
  simp only [ask, resultFrom_read_bind, resultFrom_get_bind]
  cases server.outcome earlier ⟨method, params⟩ with
  | lost => simp
  | failed => simp
  | replied body =>
    simp only [resultFrom_set_bind]
    cases hresult : resultOf? wire body <;> simp [hresult]

theorem resultFrom_map_ask_eq_ok_iff {operation method : String} {wire : Wire α} {params : Json} {f : α → β} {value : β} :
    (f <$> ask operation wire method params).resultFrom server earlier = .ok value ↔
      ∃ body, server.outcome earlier ⟨method, params⟩ = .replied body ∧ (resultOf? wire body).map f = some value := by
  rw [resultFrom_map, map_eq_ok]
  simp only [resultFrom_ask_eq_ok_iff, Option.map_eq_some_iff]
  constructor
  · rintro ⟨answer, ⟨body, hreplied, hresult⟩, rfl⟩
    exact ⟨body, hreplied, answer, hresult, rfl⟩
  · rintro ⟨body, hreplied, answer, hresult, rfl⟩
    exact ⟨answer, ⟨body, hreplied, hresult⟩, rfl⟩

end Exchange

/-- The request by which a transaction is broadcast. -/
def broadcastRequest (tx : Bytes) (mode : BroadcastMode) : Request where
  method := match mode with
    | .sync => "broadcast_tx_sync"
    | .async => "broadcast_tx_async"
    | .block => "broadcast_tx_commit"
  params := .obj [("tx", .str (Base64.encode tx))]

variable {server : Server} {earlier : List Request} {tx : Bytes} {mode : BroadcastMode}

/-- A broadcast succeeds with what the server says, and with nothing else. -/
theorem verdict_broadcast_eq_ok_iff {verdict : Verdict} :
    (Node.BroadcastResult.verdict <$> broadcast tx mode).resultFrom server earlier = .ok verdict ↔
      ∃ body, server.outcome earlier (broadcastRequest tx mode) = .replied body ∧ verdictOf? body mode = some verdict := by
  cases mode with
  | sync | async | block =>
    simp only [broadcast, bind_pure_comp, Functor.map_map]
    exact Exchange.resultFrom_map_ask_eq_ok_iff

theorem verdict_of_broadcast {result : Node.BroadcastResult}
    (h : (broadcast tx mode).resultFrom server earlier = .ok result) :
    ∃ body, server.outcome earlier (broadcastRequest tx mode) = .replied body ∧
      verdictOf? body mode = some result.verdict := by
  refine verdict_broadcast_eq_ok_iff.1 ?_
  rw [Exchange.resultFrom_map, h]
  rfl

/-- The response to a transaction that is broadcast over a server. -/
def respond (tx : Bytes) (mode : BroadcastMode) : Exchange TxResponse :=
  (TxResponse.ofBroadcast · mode) <$> broadcast tx mode

theorem verdict_of_respond {response : TxResponse} (h : (respond tx mode).resultFrom server earlier = .ok response) :
    ∃ body verdict, server.outcome earlier (broadcastRequest tx mode) = .replied body ∧
      verdictOf? body mode = some verdict ∧ response.Reports mode verdict := by
  rw [respond, Exchange.resultFrom_map] at h
  obtain ⟨result, hresult, rfl⟩ := map_eq_ok.1 h
  obtain ⟨body, hreplied, hverdict⟩ := verdict_of_broadcast hresult
  exact ⟨body, result.verdict, hreplied, hverdict, TxResponse.reports_ofBroadcast result mode⟩

theorem exists_respond {body : Bytes} {verdict : Verdict}
    (hreplied : server.outcome earlier (broadcastRequest tx mode) = .replied body)
    (hverdict : verdictOf? body mode = some verdict) :
    ∃ response, (respond tx mode).resultFrom server earlier = .ok response ∧ response.Reports mode verdict := by
  have hbroadcast := verdict_broadcast_eq_ok_iff.2 ⟨body, hreplied, hverdict⟩
  rw [Exchange.resultFrom_map] at hbroadcast
  obtain ⟨result, hresult, rfl⟩ := map_eq_ok.1 hbroadcast
  refine ⟨TxResponse.ofBroadcast result mode, ?_, TxResponse.reports_ofBroadcast result mode⟩
  rw [respond, Exchange.resultFrom_map, hresult]
  rfl

/-- A node that hands broadcasts on to the server, whatever reached the server before. -/
def Server.Behind (server : Server) (node : Node) : Prop :=
  ∀ calls tx mode result, node.answer calls (.broadcast tx mode) = .ok result →
    ∃ earlier, (broadcast tx mode).resultFrom server earlier = .ok result

end Rpc

/-! ### Operations -/

open Rpc

/-- An operation that sends a transaction reports what the node said about it. -/
theorem SendsTx.reports {operation : Operation TxResponse} (h : SendsTx operation) {session : Session}
    {response : TxResponse} (hok : (operation.run session).1 = .ok response) :
    ∃ calls tx result, (operation.run session).2 = calls ++ [.broadcast tx session.config.mode] ∧
      session.node.answer calls (.broadcast tx session.config.mode) = .ok result ∧
      response.Reports session.config.mode result.verdict := by
  rcases h.run_cases session with ⟨e, he⟩ | ⟨_, _, _, _, _, _, hbroadcast⟩
  · rw [he] at hok
    cases hok
  · obtain ⟨simulations, broadcasts, hsingle⟩ := hbroadcast.singleBroadcast
    obtain ⟨tx, result, hbroadcasts, hanswer, rfl⟩ := hsingle.success response hok
    exact ⟨simulations, tx, result, hbroadcasts ▸ hsingle.calls, hanswer, TxResponse.reports_ofBroadcast _ _⟩

/-- **No failure is reported as a success.** The response to a broadcast says what the deciding phase says, be it made from the answer of a node, from a receipt or from an inclusion. Over a server it succeeds exactly with what the body of the reply says, which is what the server meant when it wrote a receipt or an inclusion; and an operation that sends a transaction reports what its node said, which is what the server behind the node said if there is one. -/
theorem broadcast_outcomes_reported :
    (∀ result mode, (TxResponse.ofBroadcast result mode).Reports mode result.verdict) ∧
    (∀ receipt : Receipt, ∀ mode, (TxResponse.ofBroadcast receipt.view mode).Reports mode receipt.verdict) ∧
    (∀ inclusion : Inclusion, ∀ mode, (TxResponse.ofBroadcast inclusion.view mode).Reports mode inclusion.verdict) ∧
    (∀ server earlier tx mode response, (respond tx mode).resultFrom server earlier = .ok response →
      ∃ body verdict, server.outcome earlier (broadcastRequest tx mode) = .replied body ∧
        verdictOf? body mode = some verdict ∧ response.Reports mode verdict) ∧
    (∀ server earlier tx mode body verdict, server.outcome earlier (broadcastRequest tx mode) = .replied body →
      verdictOf? body mode = some verdict →
      ∃ response, (respond tx mode).resultFrom server earlier = .ok response ∧ response.Reports mode verdict) ∧
    (∀ id : Json, id.Regular 126 →
      (∀ receipt : Receipt, IsDigest receipt.hash → ∀ mode, mode ≠ .block →
        verdictOf? (Reply.body id (Receipt.wire.write receipt)) mode = some receipt.verdict) ∧
      ∀ inclusion : Inclusion, inclusion.Sound → ∀ key, key = "deliver_tx" ∨ key = "tx_result" →
        verdictOf? (Reply.body id (inclusion.json key)) .block = some inclusion.verdict) ∧
    ∀ (session : Session) {operation : Operation TxResponse} (response : TxResponse), SendsTx operation →
      (operation.run session).1 = .ok response →
      ∃ calls tx result, (operation.run session).2 = calls ++ [.broadcast tx session.config.mode] ∧
        session.node.answer calls (.broadcast tx session.config.mode) = .ok result ∧
        response.Reports session.config.mode result.verdict ∧
        ∀ server : Server, server.Behind session.node →
          ∃ earlier body, server.outcome earlier (broadcastRequest tx session.config.mode) = .replied body ∧
            verdictOf? body session.config.mode = some result.verdict := by
  refine ⟨TxResponse.reports_ofBroadcast, fun receipt => TxResponse.reports_ofBroadcast receipt.view,
    fun inclusion => TxResponse.reports_ofBroadcast inclusion.view, fun server earlier tx mode response => verdict_of_respond,
    fun server earlier tx mode body verdict => exists_respond, fun id hid => ⟨?receipt, ?inclusion⟩, ?operation⟩
  case receipt => exact fun receipt hhash mode => verdictOf?_receipt hhash hid
  case inclusion => exact fun inclusion hsound key => verdictOf?_inclusion hsound hid
  case operation =>
    intro session operation response hsends hok
    obtain ⟨calls, tx, result, hcalls, hanswer, hreports⟩ := hsends.reports hok
    refine ⟨calls, tx, result, hcalls, hanswer, hreports, fun server hbehind => ?_⟩
    obtain ⟨earlier, hresult⟩ := hbehind _ _ _ _ hanswer
    exact ⟨earlier, verdict_of_broadcast hresult⟩

namespace Sample

/-- A transaction that passed its check and failed in its block. -/
def overdrawn : Inclusion where
  check := ⟨⟨0, [], "", "", 200000, 0, [], ""⟩, "", 0, ""⟩
  delivery := ⟨5, Bytes.ofText "left over", "insufficient funds", "", 200000, 1000, [], "sdk"⟩
  hash := List.replicate 32 0xab
  height := 10

theorem sound_overdrawn : overdrawn.Sound :=
  ⟨⟨"", by decide⟩, ⟨"left over", rfl⟩, .inr (List.length_replicate ..), by decide⟩

/-- A transaction that did not pass its check. -/
def refused : Receipt := ⟨"sdk", 4, [], "signature verification failed", []⟩

theorem regular_id : (Json.str "1").Regular 126 := ⟨trivial, trivial⟩

/-- Gives the same answer to everything. -/
def server : Server := ⟨fun _ _ => .replied (Reply.body (.str "1") (overdrawn.json "deliver_tx"))⟩

theorem code_of_said {earlier : List Request} {request : Request} {body : Bytes} {verdict : Verdict} {response : TxResponse}
    (hreplied : server.outcome earlier request = .replied body) (hsaid : verdictOf? body .block = some verdict)
    (hreports : response.Reports .block verdict) : response.code = 5 := by
  rw [← Outcome.replied.inj hreplied, verdictOf?_inclusion sound_overdrawn regular_id (.inl rfl)] at hsaid
  cases hsaid
  obtain ⟨phase, hdecided, htells⟩ := hreports.phase
  cases hdecided with
  | failedCheck hcheck => exact absurd rfl hcheck
  | delivered _ hdelivery =>
    cases hdelivery
    exact htells.code
  | onlyChecked _ hdelivery => cases hdelivery

/-- Has a connection for each broadcast and nothing else to tell. -/
def relay : Node where
  answer
    | _, .broadcast tx mode => ((broadcast tx mode).run server).1.mapError fun _ => .rpc "broadcast tx"
    | _, call => .error (.rpc call.operation)

theorem answer_relay (calls : List Node.Call) (tx : Bytes) (mode : BroadcastMode) :
    relay.answer calls (.broadcast tx mode) =
      ((broadcast tx mode).resultFrom server []).mapError fun _ => .rpc "broadcast tx" := rfl

theorem behind_relay : server.Behind relay :=
  fun calls tx mode _ h => ⟨[], mapError_eq_ok.1 (answer_relay calls tx mode ▸ h)⟩

/-- A client that waits until its transactions are in a block. -/
def patient : Session := { online with config := { settings with mode := .block, gas := 200000 }, node := relay }

theorem run_patient : ∃ tx, (signAndBroadcast "alice" "secret" "hi" [note] 3 4).run patient =
    (((relay.answer [] (.broadcast tx .block)).mapError Node.Failure.clientError).map
      (TxResponse.ofBroadcast · .block), [.broadcast tx .block]) := by
  have hunlock : patient.keyring.unlock "alice" "secret" = .ok key.info := map_eq_ok.2 ⟨key, unlocked_key, rfl⟩
  obtain ⟨signature, hsign⟩ := Keyring.sign_of_unlock hunlock (SignDocument.bytes
    { accountNumber := 3, chainId := "exchain-66", fee := patient.config.feeFor 200000, memo := "hi",
      messages := [note], sequence := 4 })
  have hgas : GasLimit patient codec [note] "hi" [] 200000 := .fixed (by decide)
  exact ⟨_, run_signAndBroadcast (List.cons_ne_nil _ _) (by decide) rfl hunlock hgas hsign rfl⟩

end Sample

open Sample in
/-- A server tells of a transaction that failed in its block, and the sample client reports the failure. -/
theorem broadcast_outcomes_reported_overdrawn :
    verdictOf? (Reply.body (.str "1") (Receipt.wire.write refused)) .sync = some refused.verdict ∧
    (∃ response, ((respond [1] .block).run server).1 = .ok response ∧ response.code = 5) ∧
    ∃ response, ((signAndBroadcast "alice" "secret" "hi" [note] 3 4).run patient).1 = .ok response ∧
      response.code = 5 := by
  obtain ⟨-, -, -, hsound, hcomplete, hbodies, hoperation⟩ := broadcast_outcomes_reported
  obtain ⟨hreceipt, hinclusion⟩ := hbodies _ regular_id
  have hverdict := hinclusion overdrawn sound_overdrawn "deliver_tx" (.inl rfl)
  refine ⟨hreceipt refused (.inl rfl) .sync (by decide), ?responded, ?sent⟩
  case responded =>
    obtain ⟨response, hrespond, -⟩ := hcomplete server [] [1] .block _ _ rfl hverdict
    obtain ⟨_, _, hreplied, hsaid, hreports⟩ := hsound server [] [1] .block response hrespond
    exact ⟨response, Exchange.fst_run _ _ ▸ hrespond, code_of_said hreplied hsaid hreports⟩
  case sent =>
    obtain ⟨tx, hrun⟩ := run_patient
    obtain ⟨_, hrespond, -⟩ := hcomplete server [] tx .block _ _ rfl hverdict
    rw [respond, Exchange.resultFrom_map] at hrespond
    obtain ⟨answer, hanswer, -⟩ := map_eq_ok.1 hrespond
    have hrelay : relay.answer [] (.broadcast tx .block) = .ok answer := by rw [answer_relay, hanswer, mapError_ok]
    have hok : ((signAndBroadcast "alice" "secret" "hi" [note] 3 4).run patient).1 =
        .ok (TxResponse.ofBroadcast answer .block) := by
      rw [hrun, hrelay]
      rfl
    obtain ⟨_, _, result, -, -, hreports, hserver⟩ := hoperation patient _ (.signAndBroadcast ..) hok
    obtain ⟨_, _, hreplied, hsaid⟩ := hserver server behind_relay
    exact ⟨_, hok, code_of_said hreplied hsaid hreports⟩

end ChainClient
