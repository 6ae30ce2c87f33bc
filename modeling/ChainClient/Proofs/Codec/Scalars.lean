import ChainClient.Json.Envelope
import ChainClient.Json.Scalars
import ChainClient.Proofs.Address.Text
import ChainClient.Proofs.Coin.Decimal
import ChainClient.Proofs.Json.Faithful

/-!
# Faithful amounts, addresses and envelopes

The scalars of the chain are faithful because their texts are read back, an envelope because and as far as the free-form value in it is regular.
-/

namespace ChainClient

open Wire

/-- A free-form value as a program holds it, with the fields of its objects in order, that is also plain. -/
structure Json.Regular (levels : Nat) (value : Json) : Prop where
  ordered : value.Ordered
  plain : value.Plain levels

theorem Json.Regular.mono {levels more : Nat} {value : Json} (h : value.Regular levels) (hle : levels ≤ more) :
    value.Regular more :=
  ⟨h.ordered, h.plain.mono hle⟩

variable {levels : Nat}

theorem Wire.Faithful.regular_json {α : Type} {wire : Wire α} {value : α} (h : wire.Faithful levels value) :
    (wire.json value).Regular levels :=
  ⟨Json.ordered_sorted _, h.plain.sorted⟩

/-- The envelope as it is once the fields in its value are in order. -/
def Envelope.sorted (e : Envelope) : Envelope := { e with value := e.value.sorted }

theorem Envelope.sorted_write (e : Envelope) : (wire.write e).sorted = wire.write e.sorted :=
  Json.sorted_obj_of_ascending (show ["type", "value"].Pairwise (· < ·) by decide)

theorem Envelope.json_of_ordered {e : Envelope} (h : e.value.Ordered) : wire.json e = wire.write e := by
  rw [json, sorted_write, sorted, Json.sorted_of_ordered h]

theorem Envelope.faithful_wire {e : Envelope} (h : e.value.Regular levels) : wire.Faithful (levels + 1) e :=
  faithful_record (by decide) rfl (by simp [faithful_freeForm h.plain h.ordered])

@[simp] theorem Decimal.faithful_wire (d : Decimal) : wire.Faithful levels d := faithful_parsed d.parse_text levels

@[simp] theorem Decimal.write_ne_null (d : Decimal) : wire.write d ≠ .null := Json.noConfusion

@[simp] theorem Coin.faithful_wire (c : Coin) : wire.Faithful (levels + 1) c :=
  faithful_record (by decide) rfl (by simp)

@[simp] theorem Address.faithful_wire {role : Role} (a : Address role) : wire.Faithful levels a :=
  faithful_parsed a.parse_text levels

@[simp] theorem Address.write_ne_null {role : Role} (a : Address role) : wire.write a ≠ .null := Json.noConfusion

@[simp] theorem ConsensusKey.faithful_wire (k : ConsensusKey) : wire.Faithful levels k :=
  faithful_parsed k.parse_text levels

@[simp] theorem PortId.faithful_wire (p : PortId) : wire.Faithful levels p := faithful_texted rfl levels

@[simp] theorem ChannelId.faithful_wire (c : ChannelId) : wire.Faithful levels c := faithful_texted rfl levels

@[simp] theorem Height.faithful_wire (h : Height) : wire.Faithful (levels + 1) h :=
  faithful_record (by decide) rfl (by simp)

end ChainClient
