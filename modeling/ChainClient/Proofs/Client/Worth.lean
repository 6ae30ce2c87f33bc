import ChainClient.Proofs.Client.Submission

/-!
# The coins that are broadcast

A message is checked before it is signed, and the check of every kind but one asks that the coins of the message be positive and its lists of coins not be empty. The exception is a submitted proposal: its deposit is never empty, since it is read from a text that names coins, but nothing looks at the coins, so a deposit of nothing is signed and broadcast.
-/

namespace ChainClient

/-! ### The coins of a message -/

namespace MessageKind

/-- The lists of coins in a message. -/
def coinLists : (kind : MessageKind) → kind.Body → List (List Coin)
  | submitProposal, m => [m.initialDeposit]
  | proposalDeposit, m => [m.amount]
  | send, m => [m.amount]
  | multiSend, m => m.transfers.map Transfer.Payment.coins
  | _, _ => []

/-- The coins in a message that stand alone. -/
def singleCoins : (kind : MessageKind) → kind.Body → List Coin
  | stakingDeposit, m => [m.quantity]
  | stakingWithdraw, m => [m.quantity]
  | createValidator, m => [m.minSelfDelegation]
  | channelTransfer, m => [m.token]
  | _, _ => []

/-- No list of coins is empty, and all coins are positive. -/
structure Worthy (kind : MessageKind) (body : kind.Body) : Prop where
  lists : ∀ coins ∈ kind.coinLists body, coins ≠ [] ∧ ∀ coin ∈ coins, 0 < coin.amount.units
  singles : ∀ coin ∈ kind.singleCoins body, 0 < coin.amount.units

end MessageKind

theorem Coin.isPositive_iff {coin : Coin} : coin.isPositive = true ↔ 0 < coin.amount.units := decide_eq_true_iff

/-! ### What the checks ask for -/

theorem Staking.pos_of_checkQuantity {coin : Coin} (h : checkQuantity coin = .ok ()) : 0 < coin.amount.units := by
  by_cases hpositive : coin.isPositive
  · exact Coin.isPositive_iff.1 hpositive
  · rw [checkQuantity, if_neg hpositive] at h
    exact absurd h nofun

theorem Transfer.worthy_of_checkCoins {coins : List Coin} (h : checkCoins coins = .ok ()) :
    coins ≠ [] ∧ ∀ coin ∈ coins, 0 < coin.amount.units := by
  obtain ⟨hempty, hfind⟩ := guard_eq_ok.1 h
  refine ⟨fun hnil => hempty (List.isEmpty_iff.2 hnil), fun coin hcoin => ?_⟩
  cases hworthless : coins.find? (!·.isPositive) with
  | some worthless =>
    rw [hworthless] at hfind
    exact absurd hfind nofun
  | none =>
    have hpositive := List.find?_eq_none.1 hworthless coin hcoin
    exact Coin.isPositive_iff.1 (by simpa using hpositive)

theorem Transfer.MultiSend.worthy_of_validate {m : MultiSend} (h : m.validate = .ok ()) :
    ∀ payment ∈ m.transfers, payment.coins ≠ [] ∧ ∀ coin ∈ payment.coins, 0 < coin.amount.units := by
  obtain ⟨-, hpayments⟩ := guard_eq_ok.1 h
  intro payment hpayment
  exact worthy_of_checkCoins (forM_eq_ok.1 hpayments payment hpayment)

theorem Transfer.ToChannel.pos_of_validate {m : ToChannel} (h : m.validate = .ok ()) : 0 < m.token.amount.units := by
  obtain ⟨hpositive, -⟩ := guard_eq_ok.1 h
  exact Coin.isPositive_iff.1 (by simpa using hpositive)

theorem Staking.CreateValidator.pos_of_validate {m : CreateValidator} (h : m.validate = .ok ()) :
    0 < m.minSelfDelegation.amount.units := by
  obtain ⟨-, hrest⟩ := guard_eq_ok.1 h
  obtain ⟨-, hquantity⟩ := guard_eq_ok.1 hrest
  exact pos_of_checkQuantity hquantity

theorem Governance.Deposit.worthy_of_validate {m : Deposit} (h : m.validate = .ok ()) :
    m.amount ≠ [] ∧ ∀ coin ∈ m.amount, 0 < coin.amount.units := by
  obtain ⟨hflaw, -⟩ := guard_eq_ok.1 h
  obtain ⟨hempty, hany⟩ := not_or.1 hflaw
  refine ⟨fun hnil => hempty (List.isEmpty_iff.2 hnil), fun coin hcoin => ?_⟩
  by_contra hworthless
  refine hany (List.any_eq_true.2 ⟨coin, hcoin, ?_⟩)
  rw [← Coin.isPositive_iff] at hworthless
  simpa using hworthless

/-- The check of every kind but one settles the worth of the coins. -/
theorem MessageKind.worthy_of_validate {kind : MessageKind} {body : kind.Body} (hvalid : kind.validate body = .ok ())
    (hkind : kind ≠ .submitProposal) : kind.Worthy body := by
  have hcheck := mapError_eq_ok.1 hvalid
  cases kind with
  | stakingDeposit => exact ⟨nofun, by simpa [singleCoins] using Staking.pos_of_checkQuantity hcheck⟩
  | stakingWithdraw => exact ⟨nofun, by simpa [singleCoins] using Staking.pos_of_checkQuantity hcheck⟩
  | createValidator => exact ⟨nofun, by simpa [singleCoins] using Staking.CreateValidator.pos_of_validate hcheck⟩
  | channelTransfer => exact ⟨nofun, by simpa [singleCoins] using Transfer.ToChannel.pos_of_validate hcheck⟩
  | proposalDeposit => exact ⟨by simpa [coinLists] using Governance.Deposit.worthy_of_validate hcheck, nofun⟩
  | send => exact ⟨by simpa [coinLists] using Transfer.worthy_of_checkCoins hcheck, nofun⟩
  | multiSend => exact ⟨by simpa [coinLists] using Transfer.MultiSend.worthy_of_validate hcheck, nofun⟩
  | submitProposal => exact absurd rfl hkind
  | _ => exact ⟨nofun, nofun⟩

theorem Message.InNameOf.initialDeposit_ne_nil {author : KeyInfo} {message : Message} (h : message.InNameOf author)
    (hkind : message.kind = .submitProposal) : ∀ coins ∈ message.kind.coinLists message.body, coins ≠ [] := by
  cases h with
  | submitProposal proposal hdeposit => simpa [MessageKind.coinLists] using hdeposit
  | _ => exact absurd hkind nofun

/-! ### What is broadcast -/

variable {session : Session} {author : Author} {request : TxRequest} {bytes : Bytes} {mode : BroadcastMode}

/-- **Coins that are broadcast.** The transaction of a request holds one message. No list of coins in it is empty, and unless it submits a proposal all its coins are positive. -/
theorem worthy_of_broadcast (hcall : .broadcast bytes mode ∈ ((author.submit request).run session).2) :
    ∃ message tx, Submitted session author request bytes message tx ∧
      (∀ coins ∈ message.kind.coinLists message.body, coins ≠ []) ∧
      (message.kind ≠ .submitProposal → message.kind.Worthy message.body) := by
  obtain ⟨message, tx, hsubmitted⟩ := submitted_of_broadcast_mem hcall
  refine ⟨message, tx, hsubmitted, ?_, MessageKind.worthy_of_validate hsubmitted.valid⟩
  by_cases hkind : message.kind = .submitProposal
  · exact (TxRequest.inNameOf_of_message hsubmitted.requested).initialDeposit_ne_nil hkind
  · exact fun coins hcoins => ((MessageKind.worthy_of_validate hsubmitted.valid hkind).lists coins hcoins).1

open Sample in
/-- A deposit of one coin is broadcast, and so its coin is positive. -/
theorem worthy_of_broadcast_deposit : ∃ bytes,
    .broadcast bytes .sync ∈ (((writer soundKey.info).submit (.deposit "1okt")).run client).2 ∧
    ∃ message tx, Submitted client (writer soundKey.info) (.deposit "1okt") bytes message tx ∧
      message.kind.singleCoins message.body = [⟨"okt", ⟨10 ^ 18⟩⟩] ∧ message.kind.Worthy message.body := by
  obtain ⟨bytes, hcall⟩ := exists_broadcast rfl (message_deposit soundKey.info) rfl rfl
  obtain ⟨message, tx, hsubmitted, -, hworthy⟩ := worthy_of_broadcast hcall
  cases Except.ok.inj (hsubmitted.requested.symm.trans (message_deposit soundKey.info))
  exact ⟨bytes, hcall, _, tx, hsubmitted, rfl, hworthy (by decide)⟩

/-! ### A deposit of nothing -/

/-- Of a submitted text proposal only the two texts are checked, whatever the deposit is. -/
theorem Governance.SubmitProposal.validate_content (p : TextProposal) (initialDeposit : List Coin)
    (proposer : AccountAddress) : validate { content := p.content, initialDeposit, proposer } = p.validate := by
  rw [validate, TextProposal.ofContent?_content]

/-- A proposal with a deposit of nothing, in the name of the sample key. -/
def Sample.worthlessProposal : Governance.SubmitProposal where
  content := Governance.TextProposal.content ⟨"upgrade", "v1"⟩
  initialDeposit := [⟨"okt", ⟨0⟩⟩]
  proposer := soundKey.info.address

open Sample in
/-- A proposal with a deposit of nothing is broadcast. -/
theorem worthless_deposit_broadcast : ∃ bytes,
    .broadcast bytes .sync ∈
      (((writer soundKey.info).submit (.submitTextProposal "upgrade" "v1" "0okt")).run client).2 ∧
    ∃ message tx, Submitted client (writer soundKey.info) (.submitTextProposal "upgrade" "v1" "0okt") bytes message tx ∧
      message.kind.coinLists message.body = [[⟨"okt", ⟨0⟩⟩]] ∧ ¬ message.kind.Worthy message.body := by
  have hcoins : Coin.parseList "0okt" = .ok [⟨"okt", ⟨0⟩⟩] := by decide +kernel
  have hmessage : TxRequest.message soundKey.info (.submitTextProposal "upgrade" "v1" "0okt") =
      .ok ⟨.submitProposal, worthlessProposal⟩ :=
    bind_eq_ok.2 ⟨_, bind_eq_ok.2 ⟨_, mapError_eq_ok.2 hcoins, rfl⟩, rfl⟩
  have hcheck : worthlessProposal.validate = .ok () := by
    rw [worthlessProposal, Governance.SubmitProposal.validate_content]
    decide +kernel
  have hvalid : MessageKind.validate .submitProposal worthlessProposal = .ok () := mapError_eq_ok.2 hcheck
  obtain ⟨bytes, hcall⟩ := exists_broadcast rfl hmessage hvalid rfl
  obtain ⟨message, tx, hsubmitted⟩ := submitted_of_broadcast_mem hcall
  have hsame : message = ⟨.submitProposal, worthlessProposal⟩ :=
    Except.ok.inj (hsubmitted.requested.symm.trans hmessage)
  refine ⟨bytes, hcall, message, tx, hsubmitted, ?_⟩
  rw [hsame]
  refine ⟨rfl, fun hworthy => ?_⟩
  have hpositive := (hworthy.lists [⟨"okt", ⟨0⟩⟩] (List.mem_singleton_self _)).2 _ (List.mem_singleton_self _)
  exact absurd hpositive (by decide)

end ChainClient
