import ChainClient.Proofs.Client.Submission

/-!
# Messages survive the transaction

A message travels in an envelope inside a transaction. Whatever the message says, as far as the free-form values in it leave room for what is around them, it is read from its envelope as it was; so the one message of a transaction that reaches the node is the one that was asked for.
-/

namespace ChainClient

open Operation

variable {session : Session} {author : Author} {request : TxRequest} {bytes : Bytes} {mode : BroadcastMode}

theorem Message.InNameOf.admits {author : KeyInfo} {message : Message} (h : message.InNameOf author) :
    @Registration.Admits (.message message.kind) (.message message.kind) message.body := by
  intro part hpart
  obtain ⟨hdepth, hregular⟩ := h.regular_freeForms part hpart
  have hroom : (Registration.message message.kind).room = 126 := rfl
  rw [hroom, hdepth]
  exact hregular.mono (by decide)

/-- The one message of a broadcast transaction stands in an envelope that carries what the request asked for. -/
theorem carries_of_broadcast_mem (hcall : .broadcast bytes mode ∈ ((author.submit request).run session).2) :
    ∃ codec message envelope tx, session.codec = some codec ∧ request.message author.key = .ok message ∧
      codec.decode (.json (.record .tx)) bytes = .ok tx ∧ tx.messages = [envelope] ∧
      codec.Carries message.kind message.body envelope := by
  obtain ⟨message, tx, hsubmitted⟩ := submitted_of_broadcast_mem hcall
  obtain ⟨codec, hcodec, hdecode⟩ := hsubmitted.decoded
  rcases run_submit author request with ⟨e, he⟩ | ⟨message', codec', envelope, hmessage, hcodec', -, henvelope, -⟩
  · rw [he] at hcall
    exact absurd hcall List.not_mem_nil
  -- The run and the transaction tell of the same message and the same codec.
  cases hmessage.symm.trans hsubmitted.requested
  cases hcodec'.symm.trans hcodec
  obtain ⟨hfind, rfl⟩ := Codec.toTxMessage_eq_ok_iff.1 henvelope
  have hname := TxRequest.inNameOf_of_message hmessage
  exact ⟨codec, message, _, tx, hcodec, hmessage, hdecode, hsubmitted.messages, Codec.carries_of_admits hfind hname.admits⟩

/-- **Messages in transactions.** Every message of a kind that a codec has registered under its own name, and in which the free-form values are regular and not nested too deeply, is carried by an envelope. Every transaction that a request broadcasts holds one envelope, and it carries the message that the request became. -/
theorem messages_carried :
    (∀ (codec : Codec) (kind : MessageKind) (body : kind.Body),
      codec.find? (.json (.message kind)) = some (.message kind) →
      @Registration.Admits (.message kind) (.message kind) body → ∃ envelope, codec.Carries kind body envelope) ∧
    ∀ (session : Session) (author : Author) (request : TxRequest) (bytes : Bytes) (mode : BroadcastMode),
      .broadcast bytes mode ∈ ((author.submit request).run session).2 →
      ∃ codec message envelope tx, session.codec = some codec ∧ request.message author.key = .ok message ∧
        codec.decode (.json (.record .tx)) bytes = .ok tx ∧ tx.messages = [envelope] ∧
        codec.Carries message.kind message.body envelope := by
  constructor
  · intro codec kind body hfind hadmits
    exact ⟨_, Codec.carries_of_admits hfind hadmits⟩
  · intro session author request bytes mode hcall
    exact carries_of_broadcast_mem hcall

namespace Sample

/-- A proposal whose content is free-form JSON. -/
def proposal : Governance.SubmitProposal where
  content := ⟨"okexchain/gov/Note", .obj [("deadline", .int (-5)), ("notes", .arr [.str "say \"no\"\\\n", .null, .obj []])]⟩
  initialDeposit := [⟨"okt", ⟨1⟩⟩]
  proposer := soundKey.info.address

theorem admits_proposal : @Registration.Admits (.message .submitProposal) (.message .submitProposal) proposal := by
  have hkeys : "deadline" < "notes" := by decide
  intro part hpart
  cases List.mem_singleton.1 hpart
  constructor
  · simp [proposal, Json.Ordered, Json.OrderedFields, Json.OrderedItems, Json.Ascending, hkeys, -String.lt_iff_ltb]
  · have hroom : (Registration.message .submitProposal).room = 126 := rfl
    simp [proposal, hroom, Json.Plain, Json.PlainFields, Json.PlainItems]

end Sample

open Sample in
/-- The sample client wraps a proposal with free-form content, and its deposits reach the node as they were asked for. -/
theorem messages_carried_sample :
    (∃ envelope, clientCodec.Carries .submitProposal proposal envelope) ∧
    ∃ bytes tx envelope, .broadcast bytes .sync ∈ (((writer soundKey.info).submit (.deposit "1okt")).run client).2 ∧
      clientCodec.decode (.json (.record .tx)) bytes = .ok tx ∧ tx.messages = [envelope] ∧
      clientCodec.Carries .stakingDeposit ⟨soundKey.info.address, ⟨"okt", ⟨10 ^ 18⟩⟩⟩ envelope := by
  refine ⟨messages_carried.1 clientCodec .submitProposal proposal rfl admits_proposal, ?_⟩
  obtain ⟨bytes, hcall⟩ := exists_broadcast rfl (message_deposit soundKey.info) rfl rfl
  obtain ⟨codec, message, envelope, tx, hcodec, hmessage, hdecode, hmessages, hcarries⟩ :=
    messages_carried.2 _ _ _ _ _ hcall
  cases hcodec
  cases (message_deposit soundKey.info).symm.trans hmessage
  exact ⟨bytes, tx, envelope, hcall, hdecode, hmessages, hcarries⟩

end ChainClient
