import ChainClient.Proofs.Client.Submission
import ChainClient.Proofs.Wallet.Keyring

/-!
# Who sends a transaction and who signs it

A transaction is written in the name of the address that its author states, and is signed with the key that the keyring holds under the name that its author states. Nothing compares the two: an author who states another address under the name of a key has it signed with this key. The two are the same for the authors that a keyring itself names, as it does when it creates their keys, since it states of every key the address and the public key that belong to its secret.
-/

namespace ChainClient

/-! ### In whose name a message speaks -/

namespace MessageKind

/-- The accounts in whose name a message speaks; a validator stands for the account of the same bytes. -/
def senders : (kind : MessageKind) → kind.Body → List AccountAddress
  | stakingDeposit, m => [m.delegator]
  | stakingWithdraw, m => [m.delegator]
  | addShares, m => [m.delegator]
  | registerProxy, m => [m.proxy]
  | bindProxy, m => [m.delegator]
  | unbindProxy, m => [m.delegator]
  | createValidator, m => [m.delegator, m.validator.inRole .account]
  | editValidator, m => [m.validator.inRole .account]
  | destroyValidator, m => [m.delegator]
  | submitProposal, m => [m.proposer]
  | proposalDeposit, m => [m.depositor]
  | vote, m => [m.voter]
  | unjail, m => [m.validator.inRole .account]
  | send, m => [m.sender]
  | multiSend, m => [m.sender]
  | channelTransfer, m => [m.sender]

theorem senders_ne_nil (kind : MessageKind) (body : kind.Body) : kind.senders body ≠ [] := by
  cases kind <;> exact List.cons_ne_nil _ _

end MessageKind

/-- Speaks in the name of an address and of no other. -/
def Message.SentBy (message : Message) (address : AccountAddress) : Prop :=
  message.kind.senders message.body ≠ [] ∧ ∀ sender ∈ message.kind.senders message.body, sender = address

theorem Message.InNameOf.sentBy {author : KeyInfo} {message : Message} (h : message.InNameOf author) :
    message.SentBy author.address := by
  refine ⟨message.kind.senders_ne_nil message.body, fun sender hsender => ?_⟩
  cases h with
  | createValidator =>
    rcases List.mem_cons.1 hsender with hdelegator | hvalidator
    · exact hdelegator
    · exact List.mem_singleton.1 hvalidator
  | _ => exact List.mem_singleton.1 hsender

/-! ### Sender and signer -/

variable {session : Session} {author : Author} {request : TxRequest} {bytes : Bytes} {mode : BroadcastMode}

/-- Sender and signer are one: the signature carries the public key of the author, and both this key and the address in whose name the message speaks are those of the secret that signed. -/
structure SignedBySender (author : KeyInfo) (key : StoredKey) (signature : Signature) (message : Message) : Prop where
  stated : signature.publicKey = author.txPublicKey
  secret : author.publicKey = key.keyPair.publicBytes
  sender : message.SentBy key.keyPair.address

/-- An author as a sound keyring states it is the one whose key the keyring holds. -/
theorem signedBySender_of_sound {author : KeyInfo} {password : String} {ring : Keyring} {key : StoredKey}
    {signature : Signature} {message : Message} (hkey : ring.unlocked author.name password = .ok key)
    (hsent : message.SentBy author.address) (hsigned : signature.publicKey = key.info.txPublicKey) (hsound : ring.Sound)
    (hinfo : ring.keyInfo author.name = .ok author) : SignedBySender author key signature message := by
  obtain ⟨hstated, hmem⟩ := Keyring.keyInfo_of_unlocked hkey
  have hsame : author = key.info := Except.ok.inj (hinfo.symm.trans hstated)
  obtain ⟨haddress, hpublic⟩ := hsound key hmem
  subst hsame
  exact ⟨hsigned, hpublic, haddress ▸ hsent⟩

/-- **Sender and signer.** The transaction of a request speaks in the name of the address that its author states, and its one signature is made, over its own sign document, by the key that the keyring holds under the name that the author states. The two are one if the author is as a sound keyring states it, and so for every author that a creation returned, whatever else was created in the keyring before and after. -/
theorem sender_and_signer_of_broadcast (hcall : .broadcast bytes mode ∈ ((author.submit request).run session).2) :
    ∃ message tx key signature, Submitted session author request bytes message tx ∧
      message.SentBy author.key.address ∧
      session.keyring.unlocked author.key.name author.password = .ok key ∧
      tx.signatures = [signature] ∧
      signature.publicKey = key.info.txPublicKey ∧
      signature.signature = Base64.encode (key.keyPair.sign
        (tx.signDocument session.config.chainId author.accountNumber author.sequence).bytes) ∧
      (session.keyring.Sound → session.keyring.keyInfo author.key.name = .ok author.key →
        SignedBySender author.key key signature message) ∧
      ∀ calls, session.keyring = Keyring.empty.after calls →
        ∀ attempt ∈ Keyring.empty.record calls, attempt.outcome = .ok author.key →
          SignedBySender author.key key signature message := by
  obtain ⟨message, tx, hsubmitted⟩ := submitted_of_broadcast_mem hcall
  obtain ⟨key, hkey, hsignatures⟩ := hsubmitted.signed
  have hsent := (TxRequest.inNameOf_of_message hsubmitted.requested).sentBy
  refine ⟨message, tx, key, _, hsubmitted, hsent, hkey, hsignatures, rfl, rfl, ?sound, ?created⟩
  case sound =>
    intro hsound hinfo
    exact signedBySender_of_sound hkey hsent rfl hsound hinfo
  case created =>
    intro calls hring attempt hattempt hok
    apply signedBySender_of_sound hkey hsent rfl
    · rw [hring]
      exact Keyring.sound_after calls
    · rw [hring]
      exact Keyring.keyInfo_of_mem_record hattempt hok

namespace Sample

theorem sound_client : client.keyring.Sound := by
  intro stored hstored
  cases List.mem_singleton.1 hstored
  simp only [soundKey, and_self]

end Sample

open Sample in
/-- A deposit of the author whom the keyring states is sent and signed by the same key. -/
theorem sender_and_signer_of_broadcast_soundKey : ∃ bytes,
    .broadcast bytes .sync ∈ (((writer soundKey.info).submit (.deposit "1okt")).run client).2 ∧
    ∃ message tx key signature, Submitted client (writer soundKey.info) (.deposit "1okt") bytes message tx ∧
      client.keyring.unlocked "alice" "secret" = .ok key ∧ tx.signatures = [signature] ∧
      signature.publicKey = soundKey.info.txPublicKey ∧ message.SentBy key.keyPair.address := by
  obtain ⟨bytes, hcall⟩ := exists_broadcast rfl (message_deposit soundKey.info) rfl rfl
  obtain ⟨message, tx, key, signature, hsubmitted, -, hkey, hsignatures, -, -, hone, -⟩ :=
    sender_and_signer_of_broadcast hcall
  obtain ⟨hpublic, -, hsent⟩ := hone sound_client rfl
  exact ⟨bytes, hcall, message, tx, key, signature, hsubmitted, hkey, hsignatures, hpublic, hsent⟩

open Sample in
/-- An author who states another address and another public key under the name of the key is served all the same: neither the signature's public key is the stated one, nor is the sender the address of the key that signed. -/
theorem foreign_author_broadcast : ∃ bytes,
    .broadcast bytes .sync ∈ (((writer key.info).submit (.deposit "1okt")).run client).2 ∧
    ∃ message tx signature, Submitted client (writer key.info) (.deposit "1okt") bytes message tx ∧
      tx.signatures = [signature] ∧ signature.publicKey ≠ key.info.txPublicKey ∧
      ¬ message.SentBy soundKey.keyPair.address := by
  obtain ⟨bytes, hcall⟩ := exists_broadcast rfl (message_deposit key.info) rfl rfl
  obtain ⟨message, tx, hsubmitted⟩ := submitted_of_broadcast_mem hcall
  obtain ⟨signer, hsigner, hsignatures⟩ := hsubmitted.signed
  have hsame : signer = soundKey := Except.ok.inj (hsigner.symm.trans unlocked_soundKey)
  have hpublic : soundKey.info.txPublicKey ≠ key.info.txPublicKey := by decide +kernel
  have haddress : key.info.address ≠ soundKey.keyPair.address := by decide +kernel
  have hsent := (TxRequest.inNameOf_of_message hsubmitted.requested).sentBy
  refine ⟨bytes, hcall, message, tx, _, hsubmitted, hsignatures, hsame ▸ hpublic, fun hother => ?_⟩
  obtain ⟨sender, hsender⟩ := List.exists_mem_of_ne_nil _ hsent.1
  exact haddress ((hsent.2 sender hsender).symm.trans (hother.2 sender hsender))

end ChainClient
