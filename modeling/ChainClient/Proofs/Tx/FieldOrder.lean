import ChainClient.Proofs.Json.Reordered
import ChainClient.Proofs.Tx.SignDocument

/-!
# The order of fields in what is signed

The bytes to sign are the text of a document in which the keys of every object ascend, so they do not tell in which order the fields of the messages came. The document repeats no key of its own; only the values of its messages could bring repeated keys.
-/

namespace ChainClient

open Json Wire

/-! ### Messages -/

/-- The message has this name too, and its value is the same up to the order of fields. -/
structure Envelope.Reordered (message other : Envelope) : Prop where
  typeName : message.typeName = other.typeName
  value : Json.Reordered message.value other.value

theorem Envelope.Reordered.write {message other : Envelope} (h : message.Reordered other) :
    Json.Reordered (wire.write message) (wire.write other) := by
  obtain ⟨name, value⟩ := message
  obtain ⟨_, value'⟩ := other
  obtain ⟨rfl, hvalue⟩ := h
  exact .field [("type", .str name)] [] "value" hvalue

/-! ### Keys of a document -/

theorem Coin.keysDistinct_write (coin : Coin) : (wire.write coin).Everywhere KeysDistinct := by
  show (obj [("denom", .str coin.denom), ("amount", .str coin.amount.text)]).Everywhere KeysDistinct
  rw [everywhere_obj_iff]
  simp [KeysDistinct]

theorem Fee.keysDistinct_write (fee : Fee) : (wire.write fee).Everywhere KeysDistinct := by
  have hamount : ((list Coin.wire).write fee.amount).Everywhere KeysDistinct := by
    refine everywhere_arr_iff.2 ?_
    simpa using fun coin _ => Coin.keysDistinct_write coin
  show (obj [("amount", (list Coin.wire).write fee.amount), ("gas", quotedUInt64.write fee.gas)]).Everywhere KeysDistinct
  rw [everywhere_obj_iff]
  simp [KeysDistinct, quotedUInt64, texted, hamount]

theorem Envelope.keysDistinct_write {message : Envelope} (h : message.value.Everywhere KeysDistinct) :
    (wire.write message).Everywhere KeysDistinct := by
  show (obj [("type", .str message.typeName), ("value", message.value)]).Everywhere KeysDistinct
  rw [everywhere_obj_iff]
  simp [KeysDistinct, h]

namespace SignDocument

theorem keysDistinct_json {d : SignDocument} (h : ∀ m ∈ d.messages, m.value.Everywhere KeysDistinct) :
    d.json.Everywhere KeysDistinct := by
  have hfee := Fee.keysDistinct_write d.fee
  have hmessages : ((list Envelope.wire).write d.messages).Everywhere KeysDistinct := by
    refine everywhere_arr_iff.2 ?_
    simpa using fun m hm => Envelope.keysDistinct_write (h m hm)
  rw [json, everywhere_obj_iff]
  simp [KeysDistinct, quotedUInt64, texted, hfee, hmessages]

theorem reordered_json (d : SignDocument) {others : List Envelope}
    (h : List.Forall₂ Envelope.Reordered d.messages others) :
    Json.Reordered d.json { d with messages := others }.json := by
  have hmessages : Json.Reordered ((list Envelope.wire).write d.messages) ((list Envelope.wire).write others) := by
    apply Json.Reordered.items _ []
    rw [List.forall₂_map_left_iff, List.forall₂_map_right_iff]
    exact h.imp fun _ _ hmessage => hmessage.write
  exact .field [("account_number", quotedUInt64.write d.accountNumber), ("chain_id", .str d.chainId),
    ("fee", Fee.wire.write d.fee), ("memo", .str d.memo)] [("sequence", quotedUInt64.write d.sequence)] "msgs" hmessages

/-- **What is signed has its keys in canonical order.** Sorting a value leaves the keys of every object in it strictly ascending, does nothing to a value that it has sorted, and only moves the fields of a value in which no object repeats a key. The bytes of a document are the text of such a sorted value, and messages whose values differ in the order of fields alone make the same bytes. -/
theorem canonical_order :
    (∀ value : Json, value.sorted.Everywhere KeysAscend ∧ value.sorted.sorted = value.sorted ∧
      (value.Everywhere KeysDistinct → Json.Reordered value value.sorted)) ∧
    (∀ d : SignDocument, ∃ value : Json, d.bytes = value.bytes ∧ value.Everywhere KeysAscend ∧
      ((∀ m ∈ d.messages, m.value.Everywhere KeysDistinct) → Json.Reordered d.json value)) ∧
    ∀ (d : SignDocument) (others : List Envelope), List.Forall₂ Envelope.Reordered d.messages others →
      { d with messages := others }.bytes = d.bytes := by
  refine ⟨?value, ?document, ?messages⟩
  case value =>
    intro value
    exact ⟨keysAscend_sorted value, sorted_sorted value, .of_sorted⟩
  case document =>
    intro d
    refine ⟨d.json.sorted, rfl, keysAscend_sorted d.json, ?_⟩
    intro h
    exact .of_sorted (keysDistinct_json h)
  case messages =>
    intro d others h
    exact congrArg Json.bytes (d.reordered_json h).sorted_eq.symm

/-- The objects stand in an array, in one another and in the message; the signer has the keys of each one in descending order. -/
theorem canonical_order_nested :
    let descending := Json.obj [("b", .arr [.obj [("z", .str "1"), ("a", .obj [("y", .str "2"), ("x", .str "3")])]]),
      ("a", .str "0")]
    let ascending := Json.obj [("a", .str "0"),
      ("b", .arr [.obj [("a", .obj [("x", .str "3"), ("y", .str "2")]), ("z", .str "1")]])]
    descending.Everywhere KeysDistinct ∧ descending.sorted = ascending ∧ ascending.Everywhere KeysAscend ∧
      Json.Reordered descending ascending ∧ Json.Reordered (sample descending).json (sample ascending).json.sorted ∧
      (sample ascending).bytes = (sample descending).bytes := by
  intro descending ascending
  have hsorted : descending.sorted = ascending := by
    rfl
  have hkeys : descending.Everywhere KeysDistinct := by
    simp [descending, everywhere_obj_iff, everywhere_arr_iff, KeysDistinct]
  obtain ⟨hvalue, hdocument, hmessages⟩ := canonical_order
  obtain ⟨hascend, -, hmoved⟩ := hvalue descending
  have hreordered : Json.Reordered descending ascending := by
    rw [← hsorted]
    exact hmoved hkeys
  have hbytes := hmessages (sample descending) [⟨"okexchain/token/MsgTransfer", ascending⟩]
    (.cons ⟨rfl, hreordered⟩ .nil)
  obtain ⟨value, htext, -, hinside⟩ := hdocument (sample descending)
  have hwritten : Json.Reordered (sample descending).json value := by
    apply hinside
    intro m hm
    cases List.mem_singleton.1 hm
    exact hkeys
  have hvalue : (sample ascending).json.sorted = value := Json.bytes_injective (hbytes.trans htext)
  refine ⟨hkeys, hsorted, ?_, hreordered, ?_, hbytes⟩
  · rwa [← hsorted]
  · rwa [hvalue]

end SignDocument

end ChainClient
