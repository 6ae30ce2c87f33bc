import ChainClient.Proofs.Codec.Assembled
import ChainClient.Proofs.Codec.FreeForm

/-!
# What an assembled client writes and reads

The codec of an assembled client finds every registration of its modules and of the types that all clients share, and the types with a form in JSON survive being written and read.
-/

namespace ChainClient

namespace Facade

/-- Every type that an assembled client registers with a form in JSON: what is written of a value that leaves room for the free-form values in it is read as this value, and what is read may be written again. -/
theorem unmarshalJson_marshalJson {sealed : Option Codec} {modules : List Module} {facade : Facade}
    (hfacade : assemble sealed modules = .ok facade) {r : Registration}
    (hr : r ∈ modules.flatMap Module.registrations ++ Codec.basicRegistrations) {type : JsonType}
    (htype : r.type = .json type) :
    (∀ value : type.Value, r.Admits value →
      ∃ bytes, facade.codec.marshalJson (.json type) value = .ok bytes ∧
        facade.codec.unmarshalJson (.json type) bytes = .ok value) ∧
    (∀ (bytes : Bytes) (value : type.Value), facade.codec.unmarshalJson (.json type) bytes = .ok value →
      (∀ part ∈ type.freeForms value, part.2.Plain (r.room - part.1)) →
      ∃ again, facade.codec.marshalJson (.json type) value = .ok again ∧
        facade.codec.unmarshalJson (.json type) again = .ok value) := by
  have hfind : facade.codec.find? (.json type) = some r := htype ▸ find?_of_assemble hfacade hr
  have hback : ∀ value : type.Value, r.Admits value →
      ∃ bytes, facade.codec.marshalJson (.json type) value = .ok bytes ∧
        facade.codec.unmarshalJson (.json type) bytes = .ok value := fun value hadmits =>
    ⟨_, Codec.marshalJson_eq hfind value, Codec.unmarshalJson_encodeAs hfind hadmits⟩
  refine ⟨hback, fun bytes value hread hplain => hback value ?_⟩
  rw [Codec.unmarshalJson_eq hfind] at hread
  exact Codec.admits_of_decodeAs (mapError_eq_ok.1 hread) hplain

/-- A transaction with one message, in which there is free-form JSON, and a fee. -/
def sampleTx : Tx where
  messages := [⟨"okexchain/gov/Note",
    .obj [("deadline", .int (-5)), ("notes", .arr [.str "say \"no\"\\\n", .null, .obj []])]⟩]
  fee := { amount := [⟨"okt", ⟨1⟩⟩], gas := 200000 }
  signatures := [⟨⟨"ethermint/PubKeySecp256k1", "AQ=="⟩, ""⟩]
  memo := "1\x01"

theorem unmarshalJson_marshalJson_sampleTx :
    ∃ facade, assemble none [.governance, .evm] = .ok facade ∧ ∃ bytes,
      facade.codec.marshalJson (.json (.record .tx)) sampleTx = .ok bytes ∧
      facade.codec.unmarshalJson (.json (.record .tx)) bytes = .ok sampleTx ∧
      ∃ again, facade.codec.marshalJson (.json (.record .tx)) sampleTx = .ok again ∧
        facade.codec.unmarshalJson (.json (.record .tx)) again = .ok sampleTx := by
  obtain ⟨facade, hfacade⟩ : ∃ facade, assemble none [.governance, .evm] = .ok facade := by
    have hok : (assemble none [.governance, .evm]).toOption.isSome = true := by decide +kernel
    cases hassemble : assemble none [.governance, .evm] with
    | error e => simp [hassemble, Except.toOption] at hok
    | ok facade => exact ⟨facade, rfl⟩
  have hr : Registration.concrete "cosmos-sdk/StdTx" (.record .tx) ∈
      [Module.governance, .evm].flatMap Module.registrations ++ Codec.basicRegistrations :=
    List.mem_append_right _ (by simp [Codec.basicRegistrations])
  have htype : (Registration.concrete "cosmos-sdk/StdTx" (.record .tx)).type = .json (.record .tx) := rfl
  have hkeys : "deadline" < "notes" := by decide
  have hfree : ∀ part ∈ (JsonType.record .tx).freeForms sampleTx, part.2.Regular (126 - part.1) := by
    intro part hpart
    cases List.mem_singleton.1 hpart
    constructor
    · simp [Json.Ordered, Json.OrderedFields, Json.OrderedItems, Json.Ascending, hkeys, -String.lt_iff_ltb]
    · simp [Json.Plain, Json.PlainFields, Json.PlainItems]
  obtain ⟨hwrite, hread⟩ := unmarshalJson_marshalJson hfacade hr htype
  obtain ⟨bytes, hmarshal, hunmarshal⟩ := hwrite sampleTx hfree
  exact ⟨facade, hfacade, bytes, hmarshal, hunmarshal, hread bytes sampleTx hunmarshal fun part hpart =>
    (hfree part hpart).plain⟩

end Facade

end ChainClient
