import ChainClient.Proofs.Codec.Records
import ChainClient.Proofs.Json.Printing

/-!
# Sign documents are told apart by their bytes

The bytes of a sign document determine every field of it. Printing loses nothing, so it remains that sorting loses nothing: the six keys of a document ascend already, numbers and amounts are read back from what sorting makes of them, and a message keeps its free-form value up to the order of its fields, which a value of the reader has ascending anyway.
-/

namespace ChainClient

open Json Wire

theorem Wire.Faithful.eq_of_sorted {α : Type} {wire : Wire α} {levels : Nat} {v w : α} (hv : wire.Faithful levels v)
    (hw : wire.Faithful levels w) (h : (wire.write v).sorted = (wire.write w).sorted) : v = w := by
  have hread := hv.reads .ascending (Nat.le_refl _)
  rw [Arrangement.apply, h] at hread
  exact Except.ok.inj (hread.symm.trans (hw.reads .ascending (Nat.le_refl _)))

theorem Envelope.write_injective {e f : Envelope} (h : wire.write e = wire.write f) : e = f := by
  obtain ⟨typeName, value⟩ := e
  obtain ⟨typeName', value'⟩ := f
  have hfields : [("type", Json.str typeName), ("value", value)] = [("type", Json.str typeName'), ("value", value')] :=
    Json.obj.inj h
  cases hfields
  rfl

/-- Messages are read off their sorted text up to the order of the fields in their values. -/
theorem Envelope.map_sorted_eq {messages others : List Envelope}
    (h : ((list wire).write messages).sorted = ((list wire).write others).sorted) :
    messages.map sorted = others.map sorted := by
  have hitems : (messages.map wire.write).map Json.sorted = (others.map wire.write).map Json.sorted := by
    rw [← sortedItems_eq_map, ← sortedItems_eq_map]
    exact Json.arr.inj h
  rw [List.map_map, List.map_map] at hitems
  have hwrite : ∀ es : List Envelope, es.map (Json.sorted ∘ wire.write) = (es.map sorted).map wire.write := by
    intro es
    rw [List.map_map]
    exact List.map_congr_left fun e _ => e.sorted_write
  rw [hwrite, hwrite] at hitems
  exact List.map_injective_iff.2 (fun _ _ => write_injective) hitems

theorem Envelope.map_sorted_of_ordered {messages : List Envelope} (h : ∀ m ∈ messages, m.value.Ordered) :
    messages.map sorted = messages := by
  have heach : ∀ m ∈ messages, m.sorted = m := fun m hm => by rw [sorted, sorted_of_ordered (h m hm)]
  rw [List.map_congr_left heach, List.map_id']

namespace SignDocument

theorem sorted_json (d : SignDocument) :
    d.json.sorted = .obj [("account_number", quotedUInt64.write d.accountNumber),
      ("chain_id", .str d.chainId),
      ("fee", (Fee.wire.write d.fee).sorted),
      ("memo", .str d.memo),
      ("msgs", ((list Envelope.wire).write d.messages).sorted),
      ("sequence", quotedUInt64.write d.sequence)] :=
  sorted_obj_of_ascending
    (show ["account_number", "chain_id", "fee", "memo", "msgs", "sequence"].Pairwise (· < ·) by decide)

def sorted (d : SignDocument) : SignDocument := { d with messages := d.messages.map Envelope.sorted }

/-- The bytes determine a document up to the order of the fields in its messages. -/
theorem sorted_eq_of_bytes_eq {d e : SignDocument} (h : d.bytes = e.bytes) : d.sorted = e.sorted := by
  have hjson := Json.bytes_injective h
  rw [sorted_json, sorted_json] at hjson
  simp only [Json.obj.injEq, List.cons.injEq, Prod.mk.injEq, Json.str.injEq, true_and, and_true] at hjson
  obtain ⟨haccount, hchain, hfee, hmemo, hmessages, hsequence⟩ := hjson
  have haccount : d.accountNumber = e.accountNumber :=
    (faithful_quotedUInt64 0 _).eq_of_sorted (faithful_quotedUInt64 0 _) (congrArg Json.sorted haccount)
  have hsequence : d.sequence = e.sequence :=
    (faithful_quotedUInt64 0 _).eq_of_sorted (faithful_quotedUInt64 0 _) (congrArg Json.sorted hsequence)
  have hfee : d.fee = e.fee := (@Fee.faithful_wire 0 _).eq_of_sorted (@Fee.faithful_wire 0 _) hfee
  rw [sorted, sorted, haccount, hchain, hfee, hmemo, hsequence, Envelope.map_sorted_eq hmessages]

/-- Two documents with the same bytes to sign are one document. -/
theorem eq_of_bytes_eq {d e : SignDocument} (hd : ∀ m ∈ d.messages, m.value.Ordered)
    (he : ∀ m ∈ e.messages, m.value.Ordered) (h : d.bytes = e.bytes) : d = e := by
  have hsorted := sorted_eq_of_bytes_eq h
  rw [sorted, sorted, Envelope.map_sorted_of_ordered hd, Envelope.map_sorted_of_ordered he] at hsorted
  exact hsorted

/-- A document whose strings hold quotes and braces, with one message of this value. -/
def sample (value : Json) : SignDocument where
  accountNumber := 7
  chainId := "exchain-66"
  fee := ⟨[⟨"okt", ⟨1⟩⟩], 200000⟩
  memo := "\",\"sequence\":\"8\"\x7d"
  messages := [⟨"okexchain/token/MsgTransfer", value⟩]
  sequence := 1

/-- The fields of the message were sorted in the one document and written in order in the other. -/
theorem eq_of_bytes_eq_sample :
    let fromSorted := sample (Json.obj [("to", .str "\\"), ("amount", .arr [.int 1, .null])]).sorted
    let inOrder := sample (.obj [("amount", .arr [.int 1, .null]), ("to", .str "\\")])
    (∀ m ∈ fromSorted.messages, m.value.Ordered) ∧ (∀ m ∈ inOrder.messages, m.value.Ordered) ∧
      fromSorted.bytes = inOrder.bytes ∧ fromSorted = inOrder := by
  intro fromSorted inOrder
  have hfrom : ∀ m ∈ fromSorted.messages, m.value.Ordered := by
    intro m hm
    cases List.mem_singleton.1 hm
    exact ordered_sorted _
  have hin : ∀ m ∈ inOrder.messages, m.value.Ordered := by
    intro m hm
    cases List.mem_singleton.1 hm
    simp [Ordered, OrderedFields, OrderedItems, Ascending, -String.lt_iff_ltb]
  have hbytes : fromSorted.bytes = inOrder.bytes := by
    rfl
  exact ⟨hfrom, hin, hbytes, eq_of_bytes_eq hfrom hin hbytes⟩

end SignDocument

end ChainClient
