import ChainClient.Proofs.Outcome
import ChainClient.Wallet.Keyring

/-!
# Keyrings over time

A key is created under a name that no key before it has, and stands for this name from then on: what is created later, or fails to be, neither replaces nor hides it. A creation stores its key after its last check, so one that fails has stored none. A keyring therefore answers for every key that was ever created in it with what was stated when it was created, to those who know its password, and for no other name.
-/

namespace ChainClient

/-- What is asked for when a key is to be created. -/
structure Creation where
  phrase : String
  name : String
  password : String

/-- The key that is stored when all goes well. -/
def Creation.key (creation : Creation) (keyPair : KeyPair) : StoredKey where
  keyPair
  info := { name := creation.name, address := keyPair.address, publicKey := keyPair.publicBytes }
  passwordDigest := Sha256.hash (Bytes.ofText creation.password)

/-- A creation that was asked for, and what came of it. -/
structure Attempt where
  creation : Creation
  outcome : Except ClientError KeyInfo

def Attempt.Failed (attempt : Attempt) : Prop := ∃ e, attempt.outcome = .error e

theorem Attempt.failed_iff {attempt : Attempt} : attempt.Failed ↔ ∀ info, attempt.outcome ≠ .ok info := by
  rw [Failed]
  cases attempt.outcome <;> simp

namespace Keyring

/-- What comes of a creation, and the keyring that it leaves behind. -/
def attempt (ring : Keyring) (creation : Creation) : Except ClientError KeyInfo × Keyring :=
  (create creation.phrase creation.name creation.password).run ring

/-- The keyring after one creation and another has been asked for, whether they failed or not. -/
def after (ring : Keyring) : List Creation → Keyring
  | [] => ring
  | creation :: rest => (ring.attempt creation).2.after rest

/-- What came of each of the creations. -/
def record (ring : Keyring) : List Creation → List Attempt
  | [] => []
  | creation :: rest => ⟨creation, (ring.attempt creation).1⟩ :: (ring.attempt creation).2.record rest

variable {ring : Keyring} {creation : Creation} {calls : List Creation} {name password : String} {info : KeyInfo}
  {key : StoredKey}

/-! ### One creation -/

theorem Action.run_bind {α β : Type} (action : Action α) (next : α → Action β) (ring : Keyring) :
    Action.run (action >>= next) ring =
      match action.run ring with
      | (.ok value, left) => (next value).run left
      | (.error e, left) => (.error e, left) := by
  rcases h : action.run ring with ⟨result, left⟩
  simp only [Action.run, ExceptT.run_bind, StateT.run_bind] at h ⊢
  rw [h]
  cases result <;> rfl

theorem run_store (key : StoredKey) (ring : Keyring) : (store key).run ring =
    match ring.find? key.info.name with
    | some _ => (.error (.keyExists key.info.name), ring)
    | none => (.ok (), ⟨key :: ring.keys⟩) := by
  have hrun : (store key).run ring = Action.run (if (ring.find? key.info.name).isSome then
      throw (.keyExists key.info.name) else set (⟨key :: ring.keys⟩ : Keyring)) ring := rfl
  rw [hrun]
  cases ring.find? key.info.name <;> rfl

/-- What comes of a creation: the first check that it does not pass is why it fails, and with all checks passed its key is stored. -/
inductive Creates (ring : Keyring) (creation : Creation) : Except ClientError KeyInfo × Keyring → Prop
  | blankName (hname : Text.blank creation.name) : Creates ring creation (.error (.invalidParam "name" .emptyKeyName), ring)
  | emptyPassword (hname : ¬ Text.blank creation.name) (hpassword : creation.password.isEmpty) :
    Creates ring creation (.error .emptyPassword, ring)
  | noKeyPair {e : ClientError} (hname : ¬ Text.blank creation.name) (hpassword : ¬ creation.password.isEmpty)
      (hphrase : KeyPair.ofMnemonic creation.phrase HdPath.chainDefault = .error e) :
    Creates ring creation (.error e, ring)
  | nameTaken {keyPair : KeyPair} {key : StoredKey} (hname : ¬ Text.blank creation.name)
      (hpassword : ¬ creation.password.isEmpty)
      (hphrase : KeyPair.ofMnemonic creation.phrase HdPath.chainDefault = .ok keyPair)
      (hfind : ring.find? creation.name = some key) : Creates ring creation (.error (.keyExists creation.name), ring)
  | stored {keyPair : KeyPair} (hname : ¬ Text.blank creation.name) (hpassword : ¬ creation.password.isEmpty)
      (hphrase : KeyPair.ofMnemonic creation.phrase HdPath.chainDefault = .ok keyPair)
      (hfree : ring.find? creation.name = none) :
    Creates ring creation (.ok (creation.key keyPair).info, ⟨creation.key keyPair :: ring.keys⟩)

theorem creates_attempt (ring : Keyring) (creation : Creation) : ring.Creates creation (ring.attempt creation) := by
  by_cases hname : Text.blank creation.name
  · rw [attempt, create, hname]
    exact .blankName hname
  have hfilled := Bool.eq_false_iff.2 hname
  by_cases hpassword : creation.password.isEmpty
  · rw [attempt, create, hfilled, hpassword]
    exact .emptyPassword hname hpassword
  have hlocked := Bool.eq_false_iff.2 hpassword
  cases hphrase : KeyPair.ofMnemonic creation.phrase HdPath.chainDefault with
  | error e =>
    rw [attempt, create, hfilled, hlocked, hphrase]
    exact .noKeyPair hname hpassword hphrase
  | ok keyPair =>
    have hrun : ring.attempt creation =
        Action.run (store (creation.key keyPair) >>= fun _ => pure (creation.key keyPair).info) ring := by
      rw [attempt, create, hfilled, hlocked, hphrase]
      rfl
    have hkey : (creation.key keyPair).info.name = creation.name := rfl
    rw [hrun, Action.run_bind, run_store, hkey]
    cases hfind : ring.find? creation.name with
    | some key => exact .nameTaken hname hpassword hphrase hfind
    | none => exact .stored hname hpassword hphrase hfind

/-- Either a key is stored, under a name that was free, or the keyring is as it was. -/
theorem attempt_cases (ring : Keyring) (creation : Creation) :
    (∃ keyPair, ring.find? creation.name = none ∧
      KeyPair.ofMnemonic creation.phrase HdPath.chainDefault = .ok keyPair ∧
      ring.attempt creation = (.ok (creation.key keyPair).info, ⟨creation.key keyPair :: ring.keys⟩)) ∨
    ∃ e, ring.attempt creation = (.error e, ring) := by
  have hcreates := creates_attempt ring creation
  generalize ring.attempt creation = made at hcreates ⊢
  cases hcreates with
  | stored hname hpassword hphrase hfree => exact .inl ⟨_, hfree, hphrase, rfl⟩
  | _ => exact .inr ⟨_, rfl⟩

theorem snd_attempt_of_error {e : ClientError} (h : (ring.attempt creation).1 = .error e) :
    (ring.attempt creation).2 = ring := by
  rcases attempt_cases ring creation with ⟨keyPair, -, -, hattempt⟩ | ⟨_, hattempt⟩
  · rw [hattempt] at h
    cases h
  · rw [hattempt]

/-- A creation succeeds exactly if its name is not blank, its password is not empty, its name is free and its phrase leads to a secret, of which it then states the address and the public key. -/
theorem attempt_eq_ok_iff : (ring.attempt creation).1 = .ok info ↔
    Text.blank creation.name = false ∧ creation.password.isEmpty = false ∧ ring.find? creation.name = none ∧
      ∃ keyPair, KeyPair.ofMnemonic creation.phrase HdPath.chainDefault = .ok keyPair ∧
        info = ⟨creation.name, keyPair.address, keyPair.publicBytes⟩ := by
  have hcreates := creates_attempt ring creation
  generalize ring.attempt creation = made at hcreates ⊢
  cases hcreates with
  | blankName hname => simp [hname]
  | emptyPassword hname hpassword => simp [hpassword]
  | noKeyPair hname hpassword hphrase => simp [hphrase]
  | nameTaken hname hpassword hphrase hfind => simp [hfind]
  | stored hname hpassword hphrase hfree => simp [hname, hpassword, hphrase, hfree, Creation.key, eq_comm]

/-- Nothing is created under a name that is taken. -/
theorem attempt_of_find? (h : ring.find? creation.name = some key) : ∃ e, ring.attempt creation = (.error e, ring) := by
  rcases attempt_cases ring creation with ⟨keyPair, hfree, -, -⟩ | hfailed
  · rw [h] at hfree
    cases hfree
  · exact hfailed

/-- A name of which no key is created stays as it is. -/
theorem find?_attempt_of_ne (hne : creation.name ≠ name) : (ring.attempt creation).2.find? name = ring.find? name := by
  rcases attempt_cases ring creation with ⟨keyPair, -, -, hattempt⟩ | ⟨e, hattempt⟩
  · rw [hattempt]
    exact List.find?_cons_of_neg fun hsame => hne (beq_iff_eq.1 hsame)
  · rw [hattempt]

/-- A name with a key keeps it. -/
theorem find?_attempt (creation : Creation) (h : ring.find? name = some key) :
    (ring.attempt creation).2.find? name = some key := by
  by_cases hname : creation.name = name
  · subst hname
    obtain ⟨e, hattempt⟩ := attempt_of_find? h
    rw [hattempt, h]
  · rw [find?_attempt_of_ne hname, h]

/-! ### What is stated of a name -/

theorem keyInfo_of_find? (h : ring.find? name = some key) : ring.keyInfo name = .ok key.info := by
  rw [keyInfo, h]

theorem unlocked_of_find? (h : ring.find? name = some key) : ring.unlocked name password =
    if Sha256.hash (Bytes.ofText password) = key.passwordDigest then .ok key else .error (.wrongPassword name) := by
  rw [unlocked, h]

theorem unlocked_of_find?_eq_none (h : ring.find? name = none) :
    ring.unlocked name password = .error (.keyNotFound name) := by
  rw [unlocked, h]

/-- The key that a password unlocks is the one whose info the keyring states. -/
theorem keyInfo_of_unlocked (h : ring.unlocked name password = .ok key) :
    ring.keyInfo name = .ok key.info ∧ key ∈ ring.keys := by
  cases hfind : ring.find? name with
  | none =>
    rw [unlocked_of_find?_eq_none hfind] at h
    cases h
  | some found =>
    rw [unlocked_of_find? hfind] at h
    by_cases hpassword : Sha256.hash (Bytes.ofText password) = found.passwordDigest
    · rw [if_pos hpassword] at h
      cases h
      exact ⟨keyInfo_of_find? hfind, List.mem_of_find?_eq_some hfind⟩
    · rw [if_neg hpassword] at h
      cases h

/-- No observer tells one keyring from the other. -/
structure Alike (a b : Keyring) : Prop where
  keyInfo : a.keyInfo = b.keyInfo
  unlock : a.unlock = b.unlock
  sign : a.sign = b.sign

/-- A key is there as it was created: stated to everybody, and unlocked and signing with the secret of its phrase for its password, and for this only. -/
structure Holds (ring : Keyring) (creation : Creation) (info : KeyInfo) : Prop where
  keyInfo : ring.keyInfo creation.name = .ok info
  unlock : ring.unlock creation.name creation.password = .ok info
  sign : ∃ keyPair, KeyPair.ofMnemonic creation.phrase HdPath.chainDefault = .ok keyPair ∧
    ∀ message, ring.sign creation.name creation.password message =
      .ok { publicKey := info.txPublicKey, signature := Base64.encode (keyPair.sign message) }
  locked : ∀ password, Sha256.hash (Bytes.ofText password) ≠ Sha256.hash (Bytes.ofText creation.password) →
    ring.unlock creation.name password = .error (.wrongPassword creation.name) ∧
    ∀ message, ring.sign creation.name password message = .error (.wrongPassword creation.name)

/-- There is no key of a name. -/
structure Lacks (ring : Keyring) (name : String) : Prop where
  keyInfo : ring.keyInfo name = .error (.keyNotFound name)
  unlock : ∀ password, ring.unlock name password = .error (.keyNotFound name)
  sign : ∀ password message, ring.sign name password message = .error (.keyNotFound name)

theorem holds_of_find? {keyPair : KeyPair}
    (hphrase : KeyPair.ofMnemonic creation.phrase HdPath.chainDefault = .ok keyPair)
    (hfind : ring.find? creation.name = some (creation.key keyPair)) : ring.Holds creation (creation.key keyPair).info := by
  have hdigest : (creation.key keyPair).passwordDigest = Sha256.hash (Bytes.ofText creation.password) := rfl
  have hown : ring.unlocked creation.name creation.password = .ok (creation.key keyPair) := by
    rw [unlocked_of_find? hfind, hdigest, if_pos rfl]
  constructor
  · exact keyInfo_of_find? hfind
  · rw [unlock, hown, Except.map]
  · refine ⟨keyPair, hphrase, fun message => ?_⟩
    rw [sign, hown]
    rfl
  · intro password hpassword
    have hother : ring.unlocked creation.name password = .error (.wrongPassword creation.name) := by
      rw [unlocked_of_find? hfind, hdigest, if_neg hpassword]
    constructor
    · rw [unlock, hother, Except.map]
    · intro message
      rw [sign, hother, Except.map]

theorem lacks_of_find? (h : ring.find? name = none) : ring.Lacks name := by
  constructor
  · rw [keyInfo, h]
  · intro password
    rw [unlock, unlocked_of_find?_eq_none h, Except.map]
  · intro password message
    rw [sign, unlocked_of_find?_eq_none h, Except.map]

/-! ### One creation after another -/

theorem find?_after (calls : List Creation) (h : ring.find? name = some key) :
    (ring.after calls).find? name = some key := by
  induction calls generalizing ring with
  | nil => exact h
  | cons creation rest ih => exact ih (find?_attempt creation h)

/-- The last creation finds the keyring that the others leave behind. -/
theorem mem_record_concat (ring : Keyring) (calls : List Creation) (creation : Creation) :
    ⟨creation, ((ring.after calls).attempt creation).1⟩ ∈ ring.record (calls ++ [creation]) := by
  induction calls generalizing ring with
  | nil => exact .head _
  | cons first rest ih => exact List.mem_cons_of_mem _ (ih _)

/-- What is recorded of all creations that succeed is so of the last one, if it does. -/
theorem last_of_record {p : Creation → KeyInfo → Prop}
    (h : ∀ attempt ∈ ring.record (calls ++ [creation]), ∀ info, attempt.outcome = .ok info → p attempt.creation info)
    (hok : ((ring.after calls).attempt creation).1 = .ok info) : p creation info :=
  h _ (mem_record_concat ring calls creation) info hok

/-- What the keyring states of its keys is what their secrets say. -/
def Sound (ring : Keyring) : Prop :=
  ∀ key ∈ ring.keys, key.info.address = key.keyPair.address ∧ key.info.publicKey = key.keyPair.publicBytes

theorem Sound.attempt (h : ring.Sound) (creation : Creation) : (ring.attempt creation).2.Sound := by
  rcases attempt_cases ring creation with ⟨keyPair, -, -, hattempt⟩ | ⟨e, hattempt⟩
  · rw [hattempt]
    exact List.forall_mem_cons.2 ⟨⟨rfl, rfl⟩, h⟩
  · rw [hattempt]
    exact h

theorem Sound.after (h : ring.Sound) (calls : List Creation) : (ring.after calls).Sound := by
  induction calls generalizing ring with
  | nil => exact h
  | cons creation rest ih => exact ih (h.attempt creation)

/-- A keyring that was filled by creations alone is sound. -/
theorem sound_after (calls : List Creation) : (empty.after calls).Sound :=
  Sound.after (fun _ hkey => absurd hkey List.not_mem_nil) calls

/-- A name that is taken stays so, and nothing more is created under it. -/
theorem failed_of_find? (h : ring.find? name = some key) {attempt : Attempt} (hattempt : attempt ∈ ring.record calls)
    (hname : attempt.creation.name = name) : attempt.Failed := by
  induction calls generalizing ring with
  | nil => exact absurd hattempt List.not_mem_nil
  | cons creation rest ih =>
    rcases List.mem_cons.1 hattempt with rfl | hlater
    · subst hname
      obtain ⟨e, herror⟩ := attempt_of_find? h
      exact ⟨e, by rw [herror]⟩
    · exact ih (find?_attempt creation h) hlater

theorem find?_of_stored {keyPair : KeyPair}
    (h : ring.attempt creation = (.ok (creation.key keyPair).info, ⟨creation.key keyPair :: ring.keys⟩)) :
    (ring.attempt creation).2.find? creation.name = some (creation.key keyPair) := by
  rw [h]
  exact List.find?_cons_of_pos (beq_self_eq_true _)

/-- Of two attempts under one name at least one fails. -/
theorem pairwise_record (ring : Keyring) (calls : List Creation) :
    (ring.record calls).Pairwise fun a b => a.creation.name = b.creation.name → a.Failed ∨ b.Failed := by
  induction calls generalizing ring with
  | nil => exact .nil
  | cons creation rest ih =>
    refine List.pairwise_cons.2 ⟨fun later hlater hname => ?_, ih _⟩
    rcases attempt_cases ring creation with ⟨keyPair, -, -, hattempt⟩ | ⟨e, hattempt⟩
    · exact .inr (failed_of_find? (find?_of_stored hattempt) hlater hname.symm)
    · exact .inl ⟨e, by rw [hattempt]⟩

/-- A key that was created is there when all attempts are over. -/
theorem find?_of_mem_record {attempt : Attempt} (hattempt : attempt ∈ ring.record calls)
    (hok : attempt.outcome = .ok info) :
    ∃ keyPair, (ring.after calls).find? attempt.creation.name = some (attempt.creation.key keyPair) ∧
      KeyPair.ofMnemonic attempt.creation.phrase HdPath.chainDefault = .ok keyPair ∧
      (attempt.creation.key keyPair).info = info := by
  induction calls generalizing ring with
  | nil => exact absurd hattempt List.not_mem_nil
  | cons creation rest ih =>
    rcases List.mem_cons.1 hattempt with rfl | hlater
    · rcases attempt_cases ring creation with ⟨keyPair, -, hphrase, hstored⟩ | ⟨e, herror⟩
      · refine ⟨keyPair, find?_after rest (find?_of_stored hstored), hphrase, ?_⟩
        rw [hstored] at hok
        exact Except.ok.inj hok
      · rw [herror] at hok
        cases hok
    · exact ih hlater

/-- What a creation states of its key is stated of it ever after. -/
theorem keyInfo_of_mem_record {attempt : Attempt} (hattempt : attempt ∈ ring.record calls)
    (hok : attempt.outcome = .ok info) : (ring.after calls).keyInfo info.name = .ok info := by
  obtain ⟨keyPair, hfind, -, rfl⟩ := find?_of_mem_record hattempt hok
  exact keyInfo_of_find? hfind

/-- A name under which every attempt failed is as free as it was before. -/
theorem find?_after_of_failed (h : ring.find? name = none)
    (hfailed : ∀ attempt ∈ ring.record calls, attempt.creation.name = name → attempt.Failed) :
    (ring.after calls).find? name = none := by
  induction calls generalizing ring with
  | nil => exact h
  | cons creation rest ih =>
    obtain ⟨hfirst, hrest⟩ := List.forall_mem_cons.1 hfailed
    refine ih ?_ hrest
    by_cases hname : creation.name = name
    · obtain ⟨e, herror⟩ := hfirst hname
      rw [snd_attempt_of_error herror, h]
    · rw [find?_attempt_of_ne hname, h]

theorem find?_after_eq_none_iff : (empty.after calls).find? name = none ↔
    ∀ attempt ∈ empty.record calls, attempt.creation.name = name → attempt.Failed := by
  constructor
  · rintro h attempt hattempt rfl
    cases houtcome : attempt.outcome with
    | error e => exact ⟨e, houtcome⟩
    | ok info =>
      obtain ⟨keyPair, hfind, -⟩ := find?_of_mem_record hattempt houtcome
      rw [h] at hfind
      cases hfind
  · exact find?_after_of_failed rfl

/-- **Keyrings over time.** Whatever creations are asked for, in whatever order: one more succeeds exactly if its name is not blank, its password is not empty, none under its name succeeded before and its phrase leads to a secret, of which it then states the address and the public key. A creation that fails goes unnoticed, of those under one name at most one succeeds, the key of one that succeeds is held from then on as it was created, and of a name under which none succeeded there is no key. -/
theorem after_consistent (calls : List Creation) :
    (∀ creation info, ((empty.after calls).attempt creation).1 = .ok info ↔
      Text.blank creation.name = false ∧ creation.password.isEmpty = false ∧
        (∀ attempt ∈ empty.record calls, attempt.creation.name = creation.name → attempt.Failed) ∧
        ∃ keyPair, KeyPair.ofMnemonic creation.phrase HdPath.chainDefault = .ok keyPair ∧
          info = ⟨creation.name, keyPair.address, keyPair.publicBytes⟩) ∧
    (∀ creation e, ((empty.after calls).attempt creation).1 = .error e →
      ((empty.after calls).attempt creation).2.Alike (empty.after calls)) ∧
    ((empty.record calls).Pairwise fun a b => a.creation.name = b.creation.name → a.Failed ∨ b.Failed) ∧
    (∀ attempt ∈ empty.record calls, ∀ info, attempt.outcome = .ok info →
      ∀ later, ((empty.after calls).after later).Holds attempt.creation info) ∧
    ∀ name, (∀ attempt ∈ empty.record calls, attempt.creation.name = name → attempt.Failed) →
      (empty.after calls).Lacks name := by
  refine ⟨?succeeds, ?unnoticed, ?once, ?held, ?absent⟩
  case succeeds =>
    intro creation info
    rw [attempt_eq_ok_iff, find?_after_eq_none_iff]
  case unnoticed =>
    intro creation e herror
    rw [snd_attempt_of_error herror]
    exact ⟨rfl, rfl, rfl⟩
  case once => exact pairwise_record empty calls
  case held =>
    intro attempt hattempt info hok later
    obtain ⟨keyPair, hfind, hphrase, rfl⟩ := find?_of_mem_record hattempt hok
    exact holds_of_find? hphrase (find?_after later hfind)
  case absent =>
    intro name hfailed
    exact lacks_of_find? (find?_after_eq_none_iff.2 hfailed)

end Keyring

namespace Sample

def mnemonic : String := "abandon abandon abandon abandon abandon abandon abandon abandon abandon abandon abandon about"

def alice : Creation := ⟨mnemonic, "alice", "12345678"⟩

/-- Their name is blank, their password is empty, their phrase has no words. -/
def refusedCreations : List Creation := [⟨mnemonic, " ", "12345678"⟩, ⟨mnemonic, "alice", ""⟩, ⟨"", "alice", "12345678"⟩]

theorem failed_of_refused : ∀ attempt ∈ Keyring.empty.record refusedCreations, attempt.Failed := by
  refine List.forall_mem_cons.2 ⟨?blank, List.forall_mem_cons.2 ⟨?empty, List.forall_mem_cons.2 ⟨?wordless, nofun⟩⟩⟩
  case blank => exact Attempt.failed_iff.2 fun info hok => absurd (Keyring.attempt_eq_ok_iff.1 hok).1 (by decide)
  case empty => exact Attempt.failed_iff.2 fun info hok => absurd (Keyring.attempt_eq_ok_iff.1 hok).2.1 (by decide)
  case wordless =>
    refine Attempt.failed_iff.2 fun info hok => ?_
    have hwordless : KeyPair.ofMnemonic "" HdPath.chainDefault = .error (.invalidMnemonic .unknownWord) := rfl
    obtain ⟨-, -, -, keyPair, hphrase, -⟩ := Keyring.attempt_eq_ok_iff.1 hok
    cases hwordless.symm.trans hphrase

end Sample

namespace Keyring

open Sample in
/-- After three creations that are refused a name is still free; the fourth succeeds exactly with a secret, and its key is then held. -/
theorem after_consistent_alice :
    (∀ attempt ∈ empty.record refusedCreations, attempt.Failed) ∧ (empty.after refusedCreations).Lacks "alice" ∧
      (∀ info, ((empty.after refusedCreations).attempt alice).1 = .ok info ↔
        ∃ keyPair, KeyPair.ofMnemonic mnemonic HdPath.chainDefault = .ok keyPair ∧
          info = ⟨"alice", keyPair.address, keyPair.publicBytes⟩) ∧
      ∀ info, ((empty.after refusedCreations).attempt alice).1 = .ok info →
        ∀ later, ((empty.after (refusedCreations ++ [alice])).after later).Holds alice info := by
  obtain ⟨hsucceeds, -, -, -, hlacks⟩ := after_consistent refusedCreations
  obtain ⟨-, -, -, hheld, -⟩ := after_consistent (refusedCreations ++ [alice])
  have hfree : ∀ attempt ∈ empty.record refusedCreations, attempt.creation.name = "alice" → attempt.Failed :=
    fun attempt hattempt _ => failed_of_refused attempt hattempt
  refine ⟨failed_of_refused, hlacks _ hfree, fun info => ?succeeds, fun info => ?held⟩
  case succeeds =>
    rw [hsucceeds]
    exact ⟨fun h => h.2.2.2, fun h => ⟨by decide, by decide, hfree, h⟩⟩
  case held =>
    exact last_of_record (p := fun creation info =>
      ∀ later, ((empty.after (refusedCreations ++ [alice])).after later).Holds creation info) hheld

end Keyring

end ChainClient
