import ChainClient.Proofs.Codec.RoundTrip

/-!
# Messages in their envelopes

A message is written in two ways: by the codec as text, with its fields in the declared order, and into a transaction as a free-form value, with its fields in ascending order. Both are the same free-form value, and from both the same message is read.
-/

namespace ChainClient

open Wire

theorem Wire.freeForm_readBytes {value : Json} (h : value.Plain maxDepth) : freeForm.readBytes value.bytes = .ok value.sorted := by
  rw [readBytes, Json.ofBytes_bytes h]
  simp [freeForm, Json.value?_document h, bind, Except.bind, pure, Except.pure]

namespace Codec

variable {codec : Codec} {kind : MessageKind} {body : kind.Body} {envelope : Envelope}

/-- A concrete type of this name that holds messages of a kind can only be the registration of the kind. -/
theorem eq_message_of_find? {r : Registration} (h : codec.find? (.json (.message kind)) = some r)
    (hstyle : r.style = .concrete) (hname : r.name = kind.typeName) : r = .message kind := by
  have htype := type_of_find? h
  cases r with
  | concrete name type =>
    cases htype
    cases hname
    rfl
  | plain name type => cases hstyle
  | proto name type => cases hstyle

theorem toTxMessage_eq_ok_iff : codec.toTxMessage kind body = .ok envelope ↔
    codec.find? (.json (.message kind)) = some (.message kind) ∧ kind.envelope body = envelope := by
  constructor
  · intro h
    obtain ⟨r, hr, hrest⟩ := bind_eq_ok.1 h
    obtain ⟨hregistered, henvelope⟩ := guard_eq_ok.1 hrest
    rw [not_or, not_not, not_not] at hregistered
    have hfind := registration_eq_ok_iff.1 hr
    exact ⟨eq_message_of_find? hfind hregistered.1 hregistered.2 ▸ hfind, Except.ok.inj henvelope⟩
  · rintro ⟨hfind, rfl⟩
    refine bind_eq_ok.2 ⟨_, registration_eq_ok_iff.2 hfind, guard_eq_ok.2 ⟨?_, rfl⟩⟩
    rintro (hstyle | hname)
    · exact hstyle rfl
    · exact hname rfl

section Registered

variable (hfind : codec.find? (.json (.message kind)) = some (.message kind))

include hfind

/-- The text of an envelope is decoded as the message in it. -/
theorem decode_envelope (h : kind.wire.Faithful (maxDepth - 1) body) :
    codec.decode (.json (.message kind)) (Envelope.wire.bytes (kind.envelope body)) = .ok body := by
  have hvalue : kind.wire.readJson (kind.wire.json body).sorted = .ok body := by
    rw [json, Json.sorted_sorted]
    exact (h.mono (Nat.sub_le _ _)).readJson
  have hdecode : decodeEnvelope kind.typeName (.message kind) (Envelope.wire.bytes (kind.envelope body)) = .ok body :=
    decodeEnvelope_obj kind.typeName h.plain.sorted hvalue
  rw [decode_of_find? hfind]
  exact mapError_eq_ok.2 hdecode

/-- The text that the codec writes is the free-form value of the envelope. -/
theorem readBytes_encode (h : kind.wire.Faithful (maxDepth - 1) body) : ∃ bytes,
    codec.encode (.json (.message kind)) body = .ok bytes ∧
    freeForm.readBytes bytes = .ok (Envelope.wire.json (kind.envelope body)) := by
  have hplain : (Json.obj [("type", .str kind.typeName), ("value", kind.wire.write body)]).Plain maxDepth :=
    Json.plain_obj_iff.2 ⟨by decide, by simp [h.plain]⟩
  refine ⟨_, encode_eq_ok_iff.2 ⟨_, hfind, rfl⟩, ?_⟩
  -- The text is that of an envelope whose value has not been sorted yet.
  have hsorted : (Json.obj [("type", .str kind.typeName), ("value", kind.wire.write body)]).sorted =
      Envelope.wire.write (kind.envelope body) :=
    Envelope.sorted_write ⟨kind.typeName, kind.wire.write body⟩
  rw [Envelope.json_of_ordered (Json.ordered_sorted _), ← hsorted]
  exact freeForm_readBytes hplain

end Registered

/-- An envelope carries a message: the codec wraps the message in it, reads the message from its text and wraps what it has read in it again, and the text that the codec itself writes of the message is the same free-form value. -/
structure Carries (codec : Codec) (kind : MessageKind) (body : kind.Body) (envelope : Envelope) : Prop where
  wrapped : codec.toTxMessage kind body = .ok envelope
  decoded : codec.decode (.json (.message kind)) (Envelope.wire.bytes envelope) = .ok body
  rewrapped : ∀ again, codec.decode (.json (.message kind)) (Envelope.wire.bytes envelope) = .ok again →
    codec.toTxMessage kind again = .ok envelope
  encoded : ∃ bytes, codec.encode (.json (.message kind)) body = .ok bytes ∧
    freeForm.readBytes bytes = .ok (Envelope.wire.json envelope)

theorem carries_of_admits (hfind : codec.find? (.json (.message kind)) = some (.message kind))
    (hadmits : @Registration.Admits (.message kind) (.message kind) body) :
    codec.Carries kind body (kind.envelope body) := by
  have hfaithful : kind.wire.Faithful (maxDepth - 1) body := faithful_of_admits hadmits
  have hdecode := decode_envelope hfind hfaithful
  have hwrap : ∀ m, codec.toTxMessage kind m = .ok (kind.envelope m) := fun m => toTxMessage_eq_ok_iff.2 ⟨hfind, rfl⟩
  constructor
  · exact hwrap body
  · exact hdecode
  · intro again hagain
    cases hdecode.symm.trans hagain
    exact hwrap body
  · exact readBytes_encode hfind hfaithful

end Codec

end ChainClient
