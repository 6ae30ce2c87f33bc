import ChainClient.Message.Basic
import ChainClient.Proofs.Codec.Scalars

/-!
# Faithful messages

Every message is faithful. The only free-form value in a message is the content of a submitted proposal, so this is the only kind that says anything about its body.
-/

namespace ChainClient

open Wire

variable {levels : Nat}

namespace Staking

@[simp] theorem Description.faithful_wire (d : Description) : wire.Faithful (levels + 1) d :=
  faithful_record (by decide) rfl (by simp)

theorem Deposit.faithful_wire (m : Deposit) : wire.Faithful (levels + 2) m :=
  faithful_record (by decide) rfl (by simp)

theorem Withdraw.faithful_wire (m : Withdraw) : wire.Faithful (levels + 2) m :=
  faithful_record (by decide) rfl (by simp)

theorem AddShares.faithful_wire (m : AddShares) : wire.Faithful (levels + 2) m :=
  faithful_record (by decide) rfl (by simp)

theorem RegisterProxy.faithful_wire (m : RegisterProxy) : wire.Faithful (levels + 1) m :=
  faithful_record (by decide) rfl (by simp)

theorem BindProxy.faithful_wire (m : BindProxy) : wire.Faithful (levels + 1) m :=
  faithful_record (by decide) rfl (by simp)

theorem UnbindProxy.faithful_wire (m : UnbindProxy) : wire.Faithful (levels + 1) m :=
  faithful_record (by decide) rfl (by simp)

theorem CreateValidator.faithful_wire (m : CreateValidator) : wire.Faithful (levels + 2) m :=
  faithful_record (by decide) rfl (by simp)

theorem EditValidator.faithful_wire (m : EditValidator) : wire.Faithful (levels + 2) m :=
  faithful_record (by decide) rfl (by simp)

theorem DestroyValidator.faithful_wire (m : DestroyValidator) : wire.Faithful (levels + 1) m :=
  faithful_record (by decide) rfl (by simp)

theorem Unjail.faithful_wire (m : Unjail) : wire.Faithful (levels + 1) m :=
  faithful_record (by decide) rfl (by simp)

end Staking

namespace Governance

@[simp] theorem VoteOption.faithful_wire (o : VoteOption) : wire.Faithful levels o :=
  faithful_parsed (by cases o <;> rfl) levels

@[simp] theorem ProposalStatus.faithful_wire (s : ProposalStatus) : wire.Faithful levels s :=
  faithful_parsed (by cases s <;> rfl) levels

theorem TextProposal.faithful_wire (p : TextProposal) : wire.Faithful (levels + 1) p :=
  faithful_record (by decide) rfl (by simp)

@[simp] theorem TextProposal.ofContent?_content (p : TextProposal) : ofContent? p.content = some p := by
  have hread : wire.readJson p.content.value = .ok p := ((faithful_wire p).mono (by decide : 0 + 1 ≤ maxDepth)).readJson
  rw [ofContent?, hread]
  exact if_pos rfl

theorem SubmitProposal.faithful_wire {m : SubmitProposal} (h : m.content.value.Regular (levels + 1)) :
    wire.Faithful (levels + 3) m :=
  faithful_record (by decide) rfl (by simp [Envelope.faithful_wire h])

theorem Deposit.faithful_wire (m : Deposit) : wire.Faithful (levels + 3) m :=
  faithful_record (by decide) rfl (by simp)

theorem Vote.faithful_wire (m : Vote) : wire.Faithful (levels + 1) m :=
  faithful_record (by decide) rfl (by simp)

end Governance

namespace Transfer

theorem Send.faithful_wire (m : Send) : wire.Faithful (levels + 3) m :=
  faithful_record (by decide) rfl (by simp)

@[simp] theorem Payment.faithful_wire (p : Payment) : wire.Faithful (levels + 3) p :=
  faithful_record (by decide) rfl (by simp)

theorem MultiSend.faithful_wire (m : MultiSend) : wire.Faithful (levels + 5) m :=
  faithful_record (by decide) rfl (by simp)

theorem ToChannel.faithful_wire (m : ToChannel) : wire.Faithful (levels + 2) m :=
  faithful_record (by decide) rfl (by simp)

end Transfer

namespace MessageKind

/-- The free-form values in the body of a message, each with the number of containers around it. -/
def freeForms : (kind : MessageKind) → kind.Body → List (Nat × Json)
  | submitProposal, m => [(2, m.content.value)]
  | _, _ => []

theorem faithful_wire {kind : MessageKind} {body : kind.Body} (hlevels : 5 ≤ levels)
    (h : ∀ part ∈ kind.freeForms body, part.2.Regular (levels - part.1)) : kind.wire.Faithful levels body := by
  obtain ⟨inner, rfl⟩ := Nat.exists_eq_add_of_le' hlevels
  cases kind with
  | stakingDeposit => exact Staking.Deposit.faithful_wire body
  | stakingWithdraw => exact Staking.Withdraw.faithful_wire body
  | addShares => exact Staking.AddShares.faithful_wire body
  | registerProxy => exact Staking.RegisterProxy.faithful_wire body
  | bindProxy => exact Staking.BindProxy.faithful_wire body
  | unbindProxy => exact Staking.UnbindProxy.faithful_wire body
  | createValidator => exact Staking.CreateValidator.faithful_wire body
  | editValidator => exact Staking.EditValidator.faithful_wire body
  | destroyValidator => exact Staking.DestroyValidator.faithful_wire body
  | submitProposal => exact Governance.SubmitProposal.faithful_wire (h _ (List.mem_singleton_self _))
  | proposalDeposit => exact Governance.Deposit.faithful_wire body
  | vote => exact Governance.Vote.faithful_wire body
  | unjail => exact Staking.Unjail.faithful_wire body
  | send => exact Transfer.Send.faithful_wire body
  | multiSend => exact Transfer.MultiSend.faithful_wire body
  | channelTransfer => exact Transfer.ToChannel.faithful_wire body

end MessageKind

end ChainClient
