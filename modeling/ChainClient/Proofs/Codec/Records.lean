import ChainClient.Codec.DataType
import ChainClient.Proofs.Codec.Messages

/-!
# Faithful records

What the ledger and the node return, and the transactions themselves. Free-form values stand in the messages of a transaction and in the content of a proposal.
-/

namespace ChainClient

open Wire

variable {levels : Nat}

/-! ### Transactions -/

theorem BroadcastMode.faithful_wire (m : BroadcastMode) : wire.Faithful levels m :=
  ⟨trivial, fun a _ _ => by cases m <;> simp [wire, text, parse?, Json.document]⟩

theorem PublicKey.faithful_wire (k : PublicKey) : wire.Faithful (levels + 1) k :=
  faithful_record (by decide) rfl (by simp)

theorem Fee.faithful_wire (f : Fee) : wire.Faithful (levels + 3) f :=
  faithful_record (by decide) rfl (by simp)

theorem Signature.faithful_wire (s : Signature) : wire.Faithful (levels + 2) s :=
  faithful_record (by decide) rfl (by simp [PublicKey.faithful_wire])

theorem Tx.faithful_wire {t : Tx} (h : ∀ m ∈ t.messages, m.value.Regular (levels + 1)) : wire.Faithful (levels + 4) t :=
  faithful_record (by decide) rfl (by
    simp [Fee.faithful_wire, Signature.faithful_wire, faithful_list fun m hm => Envelope.faithful_wire (h m hm)])

/-- The mode is not written when there is none, which is what its absence stands for. -/
theorem TxResponse.faithful_wire (r : TxResponse) : wire.Faithful (levels + 1) r := by
  have hmode : (Fields.cons "mode" (option BroadcastMode.wire) (.omitted none Option.isNone) .nil).Faithful levels
      (r.mode, ()) := by
    cases hr : r.mode with
    | none => exact ⟨rfl, trivial⟩
    | some m => exact ⟨faithful_option (fun _ => BroadcastMode.faithful_wire _) (fun _ => Json.noConfusion) _, trivial⟩
  exact faithful_record (by decide) rfl (by simp [hmode])

/-! ### The ledger -/

theorem AccountInfo.faithful_wire (a : AccountInfo) : wire.Faithful (levels + 3) a := by
  have hkey : ∀ k : PublicKey, PublicKey.wire.Faithful (levels + 2) k := fun k => PublicKey.faithful_wire k
  have hnull : ∀ k : PublicKey, PublicKey.wire.write k ≠ .null := fun _ => Json.noConfusion
  exact faithful_record (by decide) rfl (by simp [faithful_option hkey hnull])

theorem TokenInfo.faithful_wire (t : TokenInfo) : wire.Faithful (levels + 1) t :=
  faithful_record (by decide) rfl (by simp [faithful_option])

theorem ContractParams.faithful_wire (p : ContractParams) : wire.Faithful (levels + 2) p := by
  have hlist : ∀ ns : List Int64, (list int64).Faithful (levels + 1) ns := by simp
  exact faithful_record (by decide) rfl (by simp [faithful_option hlist fun _ => Json.noConfusion])

theorem ContractCode.faithful_wire (c : ContractCode) : wire.Faithful (levels + 1) c :=
  faithful_record (by decide) rfl (by simp [faithful_option (faithful_string levels) fun _ => Json.noConfusion])

theorem StorageSlot.faithful_wire (s : StorageSlot) : wire.Faithful (levels + 1) s :=
  faithful_record (by decide) rfl (by simp [faithful_option (faithful_string levels) fun _ => Json.noConfusion])

namespace Staking

theorem Validator.faithful_wire (v : Validator) : wire.Faithful (levels + 2) v :=
  faithful_record (by decide) rfl (by simp [faithful_option])

theorem Delegator.faithful_wire (d : Delegator) : wire.Faithful (levels + 2) d := by
  have hlist : ∀ as : List ValidatorAddress, (list Address.wire).Faithful (levels + 1) as := by simp
  exact faithful_record (by decide) rfl
    (by simp [faithful_option, faithful_option hlist fun _ => Json.noConfusion])

theorem Params.faithful_wire (p : Params) : wire.Faithful (levels + 1) p :=
  faithful_record (by decide) rfl (by simp)

end Staking

namespace Governance

@[simp] theorem TallyResult.faithful_wire (t : TallyResult) : wire.Faithful (levels + 1) t :=
  faithful_record (by decide) rfl (by simp)

theorem Proposal.faithful_wire {p : Proposal} (h : p.content.value.Regular (levels + 1)) :
    wire.Faithful (levels + 3) p :=
  faithful_record (by decide) rfl (by simp [Envelope.faithful_wire h])

/-- No address is written as the empty text, so the empty text is free to stand for none. -/
theorem faithful_optionalAddress (a : Option AccountAddress) : optionalAddress.Faithful levels a := by
  cases a with
  | none => exact faithful_parsed rfl levels
  | some address =>
    have hne : address.text.isEmpty = false := by
      rw [String.isEmpty_eq_false_iff]
      intro hempty
      have hblank := not_blank_assemble (Role.hrp .account).toList (Bech32.symbolsOfBytes address.bytes)
      rw [show String.ofList (Bech32.assemble _ _) = "" from hempty] at hblank
      exact absurd hblank (by decide)
    exact faithful_parsed (by simp [hne, Except.map]) levels

theorem ProposalFilter.faithful_wire (f : ProposalFilter) : wire.Faithful (levels + 1) f :=
  faithful_record (by decide) rfl (by simp [faithful_optionalAddress])

theorem ProposalQuery.faithful_wire (q : ProposalQuery) : wire.Faithful (levels + 1) q :=
  faithful_record (by decide) rfl (by simp)

end Governance

/-! ### Blocks and what happened in them -/

namespace Node

@[simp] theorem EventAttribute.faithful_wire (a : EventAttribute) : wire.Faithful (levels + 1) a :=
  faithful_record (by decide) rfl (by simp)

@[simp] theorem Event.faithful_wire (e : Event) : wire.Faithful (levels + 3) e :=
  faithful_record (by decide) rfl (by simp)

@[simp] theorem Execution.faithful_wire (e : Execution) : wire.Faithful (levels + 5) e :=
  faithful_record (by decide) rfl (by simp)

@[simp] theorem BlockHeader.faithful_wire (h : BlockHeader) : wire.Faithful (levels + 1) h :=
  faithful_record (by decide) rfl (by simp)

theorem Block.faithful_wire (b : Block) : wire.Faithful (levels + 3) b :=
  faithful_record (by decide) rfl (by simp)

theorem BlockResults.faithful_wire (r : BlockResults) : wire.Faithful (levels + 7) r :=
  faithful_record (by decide) rfl (by simp)

@[simp] theorem CommitSignature.faithful_wire (s : CommitSignature) : wire.Faithful (levels + 1) s :=
  faithful_record (by decide) rfl (by simp)

@[simp] theorem Commit.faithful_wire (c : Commit) : wire.Faithful (levels + 3) c :=
  faithful_record (by decide) rfl (by simp)

@[simp] theorem ValidatorEntry.faithful_wire (v : ValidatorEntry) : wire.Faithful (levels + 2) v :=
  faithful_record (by decide) rfl (by simp)

@[simp] theorem ValidatorSet.faithful_wire (s : ValidatorSet) : wire.Faithful (levels + 4) s :=
  faithful_record (by decide) rfl (by simp)

@[simp] theorem TxRecord.faithful_wire (t : TxRecord) : wire.Faithful (levels + 6) t :=
  faithful_record (by decide) rfl (by simp)

theorem TxPage.faithful_wire (p : TxPage) : wire.Faithful (levels + 8) p :=
  faithful_record (by decide) rfl (by simp)

theorem HeaderAtHeight.faithful_wire (h : HeaderAtHeight) : wire.Faithful (levels + 5) h :=
  faithful_record (by decide) rfl (by simp)

end Node

end ChainClient
