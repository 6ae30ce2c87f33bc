import ChainClient.Channel.Escrow
import ChainClient.Client.Query
import ChainClient.Evm.SignedTx
import ChainClient.Proofs.Client.Arguments
import ChainClient.Proofs.Client.Submission
import ChainClient.Proofs.Codec.Assembled

/-!
# A client knows the types of its modules

The codec of an assembled client lacks nothing that an operation of its modules asks of it. A failure is a gap in the codec when the codec is missing, or does not know a type, or knows it in a style that does not fit. An operation that only asks for types that the codec finds never fails that way, whatever its input and whatever the node answers; and every type that an operation of a module asks for is either brought by the module or shared by all clients.
-/

namespace ChainClient

open Operation

/-! ### Gaps in a codec -/

/-- The codec did not know how to read a type; the bytes had no part in it. -/
def DecodeFailure.isGap : DecodeFailure → Bool
  | unregistered | noJsonForm => true
  | _ => false

/-- The codec is missing, does not know a type, or knows it in a style that does not fit. -/
def ClientError.codecGap : ClientError → Bool
  | noCodec | unregisteredType _ => true
  | encode _ .noJsonForm | encode _ (.registeredAs _ _) => true
  | decode _ _ failure => failure.isGap
  | _ => false

theorem ClientError.codecGap_of_blamesInput {e : ClientError} (h : e.blamesInput) : e.codecGap = false := by
  cases e <;> first | rfl | cases h

/-- The computation never fails for a gap in the codec. -/
abbrev GapFree {α : Type} (result : Except ClientError α) : Prop := FailsOnly (fun e => e.codecGap = false) result

theorem DecodeFailure.isGap_ofReadError (e : ReadError) : (DecodeFailure.ofReadError e).isGap = false := by
  cases e <;> rfl

theorem Node.Failure.codecGap_clientError (failure : Node.Failure) : failure.clientError.codecGap = false := by
  cases failure <;> rfl

namespace Codec

variable {codec : Codec} {type : DataType} {r : Registration}

/-- Once a registration is found, only the bytes can be wrong. -/
theorem failsOnly_decodeAs (r : Registration) (type : DataType) (bytes : Bytes) :
    FailsOnly (fun failure => failure.isGap = false) (decodeAs r type bytes) := by
  have hread : ∀ {α : Type} (result : Except ReadError α),
      FailsOnly (fun failure => failure.isGap = false) (result.mapError DecodeFailure.ofReadError) := fun _ =>
    failsOnly_mapError fun e _ => DecodeFailure.isGap_ofReadError e
  cases type with
  | json type =>
    cases r with
    | concrete name =>
      exact (hread _).bind fun envelope _ => failsOnly_guard rfl fun _ => hread _
    | plain name => exact hread _
    | proto name => exact hread _
  | response type =>
    rw [decodeAs]
    cases Proto.decode? type.schema bytes with
    | some message => exact failsOnly_ok message
    | none => exact failsOnly_error rfl

theorem gapFree_decode (h : codec.find? type = some r) (bytes : Bytes) :
    GapFree (codec.decode type bytes) := by
  rw [decode_of_find? h]
  exact failsOnly_mapError (failsOnly_decodeAs r type bytes)

theorem gapFree_unmarshalJson {type : JsonType} (h : codec.find? (.json type) = some r) (bytes : Bytes) :
    GapFree (codec.unmarshalJson (.json type) bytes) := by
  rw [unmarshalJson_eq h]
  exact failsOnly_mapError (failsOnly_decodeAs r (.json type) bytes)

end Codec

/-! ### Queries -/

/-- The operation never fails in this session for a gap in the codec. -/
abbrev Equipped {α : Type} (session : Session) (operation : Operation α) : Prop :=
  Operation.FailsOnly (fun e => e.codecGap = false) session operation

section Equipped

variable {α : Type} {session : Session} {codec : Codec}

theorem BlamesInput.equipped {β : Type} {result : Except ClientError α} {next : α → Operation β} (h : BlamesInput result)
    (hnext : ∀ value, Equipped session (next value)) : Equipped session (Operation.ofExcept result >>= next) :=
  failsOnly_ofExcept_bind (h.mono fun _ => ClientError.codecGap_of_blamesInput) fun value _ => hnext value

theorem equipped_guard {condition : Prop} [Decidable condition] {e : ClientError} (he : e.codecGap = false)
    {next : PUnit → Operation α} (h : Equipped session (next ⟨⟩)) :
    Equipped session (if condition then (throw e : Operation PUnit) >>= next else next ⟨⟩) := by
  split
  · exact (failsOnly_throw he).bind fun _ => h
  · exact h

theorem equipped_ask (call : Node.Call) : Equipped session (ask call) :=
  failsOnly_ask Node.Failure.codecGap_clientError call

theorem equipped_encoding (result : Except EncodeError α) :
    Equipped session (Operation.ofExcept (result.mapError .encoding)) :=
  failsOnly_ofExcept (failsOnly_mapError fun _ _ => rfl)

end Equipped

namespace Query

variable {session : Session} {codec : Codec} {type : DataType} {r : Registration}

/-- The types that a query asks the codec for. -/
def types : Query → List DataType
  | account _ => [.json (.record .accountInfo)]
  | validators => [.json (.record .validators)]
  | validator _ => [.json (.record .validator)]
  | delegator _ => [.json (.record .delegator)]
  | stakingParams => [.json (.record .stakingParams)]
  | proposals _ _ _ _ => [.json (.record .proposalFilter), .json (.record .proposals)]
  | proposal _ => [.json (.record .proposalQuery), .json (.record .proposal)]
  | token _ => [.json (.record .tokenInfo)]
  | contractParams => [.json (.record .contractParams)]
  | contractCode _ => [.json (.record .contractCode)]
  | contractStorage _ _ => [.json (.record .storageSlot)]
  | service query => [.response query.response]
  | _ => []

theorem equipped_decoded (hcodec : session.codec = some codec) (h : codec.find? type = some r) (path : String)
    (data : Bytes) : Equipped session (decoded path data type) :=
  (equipped_ask _).bind fun _ => failsOnly_codec_bind hcodec (failsOnly_ofExcept (codec.gapFree_decode h _))

theorem equipped_invoked (hcodec : session.codec = some codec) (h : codec.find? type = some r) (path : String)
    (data : Bytes) : Equipped session (invoked path data type) :=
  failsOnly_codec_bind hcodec ((equipped_ask _).bind fun _ => failsOnly_ofExcept (codec.gapFree_decode h _))

theorem equipped_asked {question type : JsonType} {s : Registration} (hcodec : session.codec = some codec)
    (hquestion : codec.find? (.json question) = some s) (h : codec.find? (.json type) = some r) (path : String)
    (value : question.Value) : Equipped session (asked path question value (.json type)) := by
  refine failsOnly_codec_bind hcodec (failsOnly_ofExcept_bind ?written fun data _ => ?answered)
  case written =>
    rw [Codec.marshalJson_eq hquestion]
    exact failsOnly_ok _
  case answered => exact (equipped_ask _).bind fun _ => failsOnly_ofExcept (codec.gapFree_unmarshalJson h _)

theorem equipped_askValidators (height : Option Int64) (page perPage : UInt32) :
    Equipped session (askValidators height page perPage) :=
  (blamesInput_optionalHeight height).equipped fun _ => (Params.blamesInput_checkPositive _ _).equipped fun _ =>
    (Params.blamesInput_checkPositive _ _).equipped fun _ => equipped_ask _

theorem equipped_search (query : String) (prove : Bool) (page perPage : UInt32) (order : String) :
    Equipped session (search query prove page perPage order) := by
  refine equipped_guard rfl ((Params.blamesInput_checkPositive _ _).equipped fun _ =>
    (Params.blamesInput_checkPositive _ _).equipped fun _ => ?_)
  split
  · exact failsOnly_throw rfl
  · exact equipped_ask _

/-- A query only asks for its types. -/
theorem equipped_perform (query : Query) (hcodec : session.codec = some codec)
    (htypes : ∀ type ∈ query.types, ∃ r, codec.find? type = some r) : Equipped session query.perform := by
  cases query with
  | account address =>
    obtain ⟨r, hfind⟩ := htypes _ List.mem_cons_self
    exact (Params.blamesInput_checkAccount _ _).equipped fun _ => equipped_decoded hcodec hfind _ _
  | validators =>
    obtain ⟨r, hfind⟩ := htypes _ List.mem_cons_self
    exact equipped_decoded hcodec hfind _ _
  | validator address =>
    obtain ⟨r, hfind⟩ := htypes _ List.mem_cons_self
    exact (Params.blamesInput_checkValidator _).equipped fun _ => equipped_decoded hcodec hfind _ _
  | delegator address =>
    obtain ⟨r, hfind⟩ := htypes _ List.mem_cons_self
    exact (Params.blamesInput_checkAccount _ _).equipped fun _ => equipped_decoded hcodec hfind _ _
  | stakingParams =>
    obtain ⟨r, hfind⟩ := htypes _ List.mem_cons_self
    exact equipped_decoded hcodec hfind _ _
  | proposals depositor voter status limit =>
    obtain ⟨s, hquestion⟩ := htypes _ List.mem_cons_self
    obtain ⟨r, hfind⟩ := htypes _ (List.mem_cons_of_mem _ List.mem_cons_self)
    exact (blamesInput_proposalFilter _ _ _ _).equipped fun _ => equipped_asked hcodec hquestion hfind _ _
  | proposal id =>
    obtain ⟨s, hquestion⟩ := htypes _ List.mem_cons_self
    obtain ⟨r, hfind⟩ := htypes _ (List.mem_cons_of_mem _ List.mem_cons_self)
    exact (Params.blamesInput_checkProposal _).equipped fun _ => equipped_asked hcodec hquestion hfind _ _
  | token symbol =>
    obtain ⟨r, hfind⟩ := htypes _ List.mem_cons_self
    simp only [perform]
    exact equipped_guard rfl (equipped_decoded hcodec hfind _ _)
  | contractParams =>
    obtain ⟨r, hfind⟩ := htypes _ List.mem_cons_self
    exact equipped_decoded hcodec hfind _ _
  | contractCode contract =>
    obtain ⟨r, hfind⟩ := htypes _ List.mem_cons_self
    exact (Params.blamesInput_checkFixedHex _ _ _).equipped fun _ =>
      (equipped_decoded hcodec hfind _ _).bind fun _ => equipped_encoding _
  | contractStorage contract slot =>
    obtain ⟨r, hfind⟩ := htypes _ List.mem_cons_self
    exact (Params.blamesInput_checkFixedHex _ _ _).equipped fun _ => (Params.blamesInput_checkFixedHex _ _ _).equipped
      fun _ => (equipped_decoded hcodec hfind _ _).bind fun _ => equipped_encoding _
  | service query =>
    obtain ⟨r, hfind⟩ := htypes _ List.mem_cons_self
    exact equipped_invoked hcodec hfind _ _
  | application path data => exact equipped_ask _
  | block height | blockResults height | commit height =>
    exact (blamesInput_optionalHeight height).equipped fun _ => equipped_ask _
  | validatorSet height page perPage => exact equipped_askValidators height page perPage
  | tx hash prove =>
    have hdecode : GapFree ((Hex.decode hash).mapError .encoding) := failsOnly_mapError fun _ _ => rfl
    have hhash : GapFree (Params.checkHash hash) :=
      hdecode.bind fun _ _ => failsOnly_guard rfl fun _ => failsOnly_ok _
    exact failsOnly_ofExcept_bind hhash fun _ _ => equipped_ask _
  | txSearch query prove page perPage order => exact equipped_search query prove page perPage order
  | txsByEvents events page limit =>
    exact (Params.blamesInput_checkPage _ _).equipped fun _ => (Params.blamesInput_eventsQuery events).equipped fun _ =>
      equipped_search _ _ _ _ _
  | txsByConditions conditions page limit =>
    simp only [perform]
    exact equipped_guard rfl ((Params.blamesInput_checkPage _ _).equipped fun _ =>
      (equipped_search _ _ _ _ _).bind fun _ => failsOnly_pure _)
  | header height =>
    simp only [perform]
    exact equipped_guard rfl ((Params.blamesInput_checkHeight height).equipped fun _ =>
      (equipped_ask _).bind fun _ => (equipped_askValidators _ _ _).bind fun _ => failsOnly_pure _)

end Query

/-! ### Transactions -/

namespace TxRequest

/-- The kind of the message that a request becomes. -/
def kind : TxRequest → MessageKind
  | deposit _ => .stakingDeposit
  | withdraw _ => .stakingWithdraw
  | addShares _ => .addShares
  | registerProxy | unregisterProxy => .registerProxy
  | bindProxy _ => .bindProxy
  | unbindProxy => .unbindProxy
  | createValidator _ _ => .createValidator
  | editValidator _ => .editValidator
  | destroyValidator => .destroyValidator
  | submitTextProposal _ _ _ => .submitProposal
  | depositToProposal _ _ => .proposalDeposit
  | vote _ _ => .vote
  | unjail => .unjail
  | send _ _ => .send
  | multiSend _ => .multiSend
  | transfer _ _ _ _ => .channelTransfer

theorem kind_of_message {author : KeyInfo} {request : TxRequest} {message : Message}
    (h : request.message author = .ok message) : message.kind = request.kind := by
  cases request with
  | registerProxy | unregisterProxy | unbindProxy | editValidator _ | destroyValidator | unjail | multiSend _ =>
    cases h
    rfl
  | deposit _ | withdraw _ | addShares _ | bindProxy _ | submitTextProposal _ _ _ =>
    obtain ⟨_, -, hmessage⟩ := bind_eq_ok.1 h
    cases hmessage
    rfl
  | createValidator _ _ | depositToProposal _ _ | vote _ _ | send _ _ =>
    obtain ⟨_, -, hrest⟩ := bind_eq_ok.1 h
    obtain ⟨_, -, hmessage⟩ := bind_eq_ok.1 hrest
    cases hmessage
    rfl
  | transfer _ _ _ _ =>
    obtain ⟨_, -, hrest⟩ := bind_eq_ok.1 h
    obtain ⟨_, -, hrest⟩ := bind_eq_ok.1 hrest
    obtain ⟨_, -, hmessage⟩ := bind_eq_ok.1 hrest
    cases hmessage
    rfl

end TxRequest

section Transactions

variable {session : Session} {codec : Codec} {r : Registration}

theorem gapFree_encode {type : DataType} (h : codec.find? type = some r) (value : type.Value) :
    GapFree (codec.encode type value) := by
  intro e he
  rw [Codec.encode_eq_ok_iff.2 ⟨r, h, rfl⟩] at he
  cases he

theorem equipped_estimateGas (h : codec.find? (.json (.record .tx)) = some r) (tx : Tx) :
    Equipped session (estimateGas codec tx) := by
  refine failsOnly_read_bind (failsOnly_ofExcept_bind (gapFree_encode h tx) fun bytes _ => ?_)
  refine (equipped_ask _).bind fun answer => ?_
  cases GasInfo.simulationWire.readBytes answer.value with
  | ok info => exact failsOnly_pure _
  | error e => exact failsOnly_throw (DecodeFailure.isGap_ofReadError e)

theorem equipped_signAndBroadcast (hcodec : session.codec = some codec)
    (h : codec.find? (.json (.record .tx)) = some r) (signer password memo : String) (messages : List Envelope)
    (accountNumber sequence : UInt64) :
    Equipped session (signAndBroadcast signer password memo messages accountNumber sequence) := by
  unfold signAndBroadcast
  refine equipped_guard rfl (equipped_guard rfl (failsOnly_read_bind (failsOnly_codec_bind hcodec ?_)))
  refine (session.keyring.blamesInput_unlock _ _).equipped fun _ => ?_
  have hsend : ∀ gas, Equipped session
      (sendWithLimit session codec signer password memo messages accountNumber sequence gas) := fun gas =>
    (session.keyring.blamesInput_sign _ _ _).equipped fun _ => failsOnly_ofExcept_bind (gapFree_encode h _) fun _ _ =>
      (equipped_ask _).bind fun _ => failsOnly_pure _
  dsimp only
  split
  · exact (equipped_estimateGas h _).bind hsend
  · exact (failsOnly_pure _).bind hsend

theorem equipped_submit (hcodec : session.codec = some codec) (htx : codec.find? (.json (.record .tx)) = some r)
    (author : Author) {request : TxRequest}
    (hkind : codec.find? (.json (.message request.kind)) = some (.message request.kind)) :
    Equipped session (author.submit request) := by
  refine (Params.blamesInput_checkKey _ _).equipped fun _ => ?_
  have hmessage := (request.blamesInput_message author.key).mono fun _ => ClientError.codecGap_of_blamesInput
  refine failsOnly_ofExcept_bind hmessage fun message hok => failsOnly_codec_bind hcodec ?_
  rw [← TxRequest.kind_of_message hok] at hkind
  refine (Params.blamesInput_mapError_value _ id).equipped fun _ => failsOnly_ofExcept_bind ?wrapped fun _ _ => ?sent
  case wrapped =>
    rw [Codec.toTxMessage_eq_ok_iff.2 ⟨hkind, rfl⟩]
    exact failsOnly_ok _
  case sent => exact equipped_signAndBroadcast hcodec htx _ _ _ _ _ _

end Transactions

/-! ### The operations of the modules -/

/-- The modules that put a query; the rest is left to the base that they share. -/
def Query.modules : Query → List Module
  | account _ => [.auth]
  | validators | validator _ | delegator _ | stakingParams => [.staking]
  | proposals _ _ _ _ | proposal _ => [.governance]
  | token _ => [.token]
  | contractParams | contractCode _ | contractStorage _ _ => [.evm]
  | service _ | txsByConditions _ _ _ | header _ => [.ibc]
  | block _ | blockResults _ | commit _ | validatorSet _ _ _ | txsByEvents _ _ _ => [.tendermint]
  | tx _ _ => [.tendermint, .ibc]
  | application _ _ | txSearch _ _ _ _ _ => []

/-- The module that sends messages of a kind. -/
def MessageKind.module : MessageKind → Module
  | stakingDeposit | stakingWithdraw | addShares | registerProxy | bindProxy | unbindProxy | createValidator
  | editValidator | destroyValidator => .staking
  | submitProposal | proposalDeposit | vote => .governance
  | unjail => .slashing
  | send | multiSend => .token
  | channelTransfer => .ibc

/-- The operations of a module: its queries, its requests to send a transaction, and what it computes without the node. -/
inductive Module.Offers : {α : Type} → Module → Operation α → Prop
  | query {m : Module} {query : Query} (h : m ∈ query.modules) : Offers m query.perform
  | submit (author : Author) (request : TxRequest) : Offers request.kind.module (author.submit request)
  | escrow (port channel : String) : Offers .ibc (pure (Escrow.address port channel))
  | txHash (signed : Bytes) : Offers .evm (pure (Evm.txHash? signed))

/-- A module brings every type that its queries ask for. -/
theorem Query.exists_registration {query : Query} {m : Module} (hm : m ∈ query.modules) {type : DataType}
    (htype : type ∈ query.types) : ∃ r ∈ m.registrations, r.type = type := by
  rw [← List.mem_map]
  cases query with
  | service query =>
    cases List.mem_singleton.1 hm
    cases List.mem_singleton.1 htype
    generalize query.response = response
    cases response <;> decide
  | proposals _ _ _ _ | proposal _ =>
    cases List.mem_singleton.1 hm
    rcases List.mem_pair.1 htype with rfl | rfl <;> decide
  | account _ | validators | validator _ | delegator _ | stakingParams | token _ | contractParams | contractCode _
  | contractStorage _ _ =>
    cases List.mem_singleton.1 hm
    cases List.mem_singleton.1 htype
    decide
  | _ => cases htype

/-- A module brings the messages that it sends. -/
theorem MessageKind.message_mem_registrations (kind : MessageKind) :
    Registration.message kind ∈ kind.module.registrations := by
  cases kind <;> decide

theorem Facade.find?_message {modules : List Module} {facade : Facade} (h : assemble none modules = .ok facade)
    {kind : MessageKind} (hmodule : kind.module ∈ modules) :
    facade.codec.find? (.json (.message kind)) = some (.message kind) :=
  find?_of_assemble h (List.mem_append_left _ (List.mem_flatMap.2 ⟨_, hmodule, kind.message_mem_registrations⟩))

/-- Transactions are known to all clients. -/
theorem Facade.find?_tx {modules : List Module} {facade : Facade} (h : assemble none modules = .ok facade) :
    facade.codec.find? (.json (.record .tx)) = some (.concrete "cosmos-sdk/StdTx" (.record .tx)) := by
  have htx : Registration.concrete "cosmos-sdk/StdTx" (.record .tx) ∈ Codec.basicRegistrations := by decide
  exact find?_of_assemble h (List.mem_append_right _ htx)

theorem Module.Offers.equipped {modules : List Module} {facade : Facade} (hfacade : Facade.assemble none modules = .ok facade)
    {m : Module} (hm : m ∈ modules) {α : Type} {operation : Operation α} (h : m.Offers operation) {session : Session}
    (hcodec : session.codec = some facade.codec) : Equipped session operation := by
  cases h with
  | @query _ query hquery =>
    refine query.equipped_perform hcodec fun type htype => ?_
    obtain ⟨r, hr, rfl⟩ := Query.exists_registration hquery htype
    exact ⟨r, Facade.find?_of_assemble hfacade (List.mem_append_left _ (List.mem_flatMap.2 ⟨m, hm, hr⟩))⟩
  | submit author request =>
    exact equipped_submit hcodec (Facade.find?_tx hfacade) author (Facade.find?_message hfacade hm)
  | escrow port channel => exact failsOnly_pure _
  | txHash signed => exact failsOnly_pure _

/-- **No gaps.** A client is assembled from every list of modules with distinct names, in any order, over a base without a codec. What its codec finds for a type is a registration of that type, and no operation of its modules ever fails for a gap in the codec. -/
theorem assembled_without_gaps (modules : List Module) (hnames : (modules.map Module.name).Nodup) :
    ∃ facade, Facade.assemble none modules = .ok facade ∧ facade.modules = modules ∧
      (∀ type r, facade.codec.find? type = some r → r.type = type) ∧
      ∀ session : Session, session.codec = some facade.codec →
        ∀ m ∈ modules, ∀ (α : Type) (operation : Operation α), m.Offers operation →
          ∀ e, (operation.run session).1 = .error e → e.codecGap = false := by
  obtain ⟨facade, hfacade, hmodules⟩ := Facade.exists_assemble (List.Nodup.of_map _ hnames)
  refine ⟨facade, hfacade, hmodules, fun type r => Codec.type_of_find?, ?_⟩
  intro session hcodec m hm α operation hoffers
  exact hoffers.equipped hfacade hm hcodec []

/-- An assembled client with one key. Its node answers every question with half a number and lets no transaction through. -/
def Sample.garbled (facade : Facade) : Session where
  config := client.config
  keyring := client.keyring
  codec := some facade.codec
  node :=
    { answer
        | _, .query _ _ => .ok ⟨[0xff], 7⟩
        | _, call => .error (.rpc call.operation) }

/-- A client of two modules: the codec takes the answer to a question and its bytes are wrong; the codec writes a message and the transaction with it, and the node fails. -/
theorem assembled_without_gaps_garbled :
    ∃ facade e f bytes, Facade.assemble none [.ibc, .staking] = .ok facade ∧
      ((Query.service .transferParams).perform.run (Sample.garbled facade)).1 = .error e ∧
      e = .decode "ibc.applications.transfer.v1.QueryParamsResponse" 1 .protobuf ∧ e.codecGap = false ∧
      ((Sample.writer Sample.soundKey.info).submit (.deposit "1okt")).run (Sample.garbled facade) =
        (.error f, [.broadcast bytes .sync]) ∧ f.codecGap = false := by
  obtain ⟨facade, hfacade, -, -, hgaps⟩ := assembled_without_gaps [.ibc, .staking] (by decide)
  have hresponse : .proto "ibc.applications.transfer.v1.QueryParamsResponse" .transferParams ∈
      [Module.ibc, Module.staking].flatMap Module.registrations ++ Codec.basicRegistrations := by decide
  have hdecode : facade.codec.decode (.response .transferParams) [0xff] =
      .error (.decode "ibc.applications.transfer.v1.QueryParamsResponse" 1 .protobuf) :=
    Codec.decode_of_find? (Facade.find?_of_assemble hfacade hresponse) [0xff]
  have hanswer : (Query.service .transferParams).perform.run (Sample.garbled facade) =
      (ofExcept (facade.codec.decode (.response .transferParams) [0xff])).runFrom (Sample.garbled facade)
        [.query Proto.Query.transferParams.path Proto.Query.transferParams.request] := rfl
  rw [hdecode] at hanswer
  have hunlock : (Sample.garbled facade).keyring.unlock "alice" "secret" = .ok Sample.soundKey.info :=
    Sample.unlock_soundKey
  have hsent : ∃ bytes, ((Sample.writer Sample.soundKey.info).submit (.deposit "1okt")).run (Sample.garbled facade) =
      (.error (.rpc "broadcast tx"), [.broadcast bytes .sync]) :=
    exists_run_submit_of_valid (by decide) (by decide) (Sample.message_deposit _) rfl rfl
      (Facade.find?_message hfacade (by decide)) (Facade.find?_tx hfacade) hunlock
      (show (200000 : UInt64) ≠ 0 by decide)
  obtain ⟨bytes, hsent⟩ := hsent
  have hquestion : Module.ibc.Offers (Query.service .transferParams).perform := .query (by decide)
  have hdeposit : Module.staking.Offers ((Sample.writer Sample.soundKey.info).submit (.deposit "1okt")) :=
    Module.Offers.submit (Sample.writer Sample.soundKey.info) (.deposit "1okt")
  refine ⟨facade, _, _, bytes, hfacade, congrArg Prod.fst hanswer, rfl, ?_, hsent, ?_⟩
  · exact hgaps _ rfl .ibc (by decide) _ _ hquestion _ (congrArg Prod.fst hanswer)
  · exact hgaps _ rfl .staking (by decide) _ _ hdeposit _ (congrArg Prod.fst hsent)

end ChainClient
