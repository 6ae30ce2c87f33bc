import Mathlib.Data.List.Nodup
import Mathlib.Data.List.Perm.Basic
import ChainClient.Client.Transaction
import ChainClient.Proofs.Address.Canonical

/-!
# Lists of validators

A list of validators is looked through for duplicates twice: as the texts of the caller, by the addresses that they denote, and as the addresses in the message. Both searches walk the list with what they have seen, and both find nothing exactly when the addresses are distinct. Since an address is denoted by its text in lower case and in upper case, texts that differ only in their case are duplicates.
-/

namespace ChainClient

/-! ### Searching for duplicates -/

/-- The search finds nothing in a list without duplicates of which nothing was seen before. -/
theorem Staking.firstRepeated?_eq_none_iff {α : Type} [DecidableEq α] {seen items : List α} :
    firstRepeated? seen items = none ↔ items.Nodup ∧ ∀ item ∈ items, item ∉ seen := by
  induction items generalizing seen with
  | nil => exact iff_of_true rfl ⟨.nil, nofun⟩
  | cons item items ih =>
    rw [firstRepeated?, List.nodup_cons, List.forall_mem_cons]
    by_cases hseen : item ∈ seen
    · rw [if_pos hseen]
      exact iff_of_false nofun fun h => h.2.1 hseen
    · rw [if_neg hseen, ih]
      simp only [List.mem_cons, not_or]
      constructor
      · rintro ⟨hnodup, hnew⟩
        exact ⟨⟨fun hitem => (hnew item hitem).1 rfl, hnodup⟩, hseen, fun other hother => (hnew other hother).2⟩
      · rintro ⟨⟨hitem, hnodup⟩, -, hnew⟩
        exact ⟨hnodup, fun other hother => ⟨fun heq => hitem (heq ▸ hother), hnew other hother⟩⟩

theorem Staking.firstRepeated?_nil_eq_none_iff {α : Type} [DecidableEq α] {items : List α} :
    firstRepeated? [] items = none ↔ items.Nodup := by
  rw [firstRepeated?_eq_none_iff]
  exact and_iff_left fun _ _ => List.not_mem_nil

namespace Params

/-- The search through addresses with their texts finds something where the search through the addresses does. -/
theorem repeated?_eq_none_iff {seen : List ValidatorAddress} {pairs : List (ValidatorAddress × String)} :
    repeated? seen pairs = none ↔ Staking.firstRepeated? seen (pairs.map Prod.fst) = none := by
  induction pairs generalizing seen with
  | nil => exact iff_of_true rfl rfl
  | cons pair pairs ih =>
    rw [List.map_cons, repeated?, Staking.firstRepeated?]
    by_cases hseen : pair.1 ∈ seen
    · rw [if_pos hseen, if_pos hseen]
      exact iff_of_false nofun nofun
    · rw [if_neg hseen, if_neg hseen, ih]

end Params

/-- The check of the message passes where there are validators and each is named once. -/
theorem MessageKind.validate_addShares_eq_ok_iff {m : Staking.AddShares} :
    validate .addShares m = .ok () ↔ m.validators ≠ [] ∧ m.validators.Nodup := by
  have hcheck : check .addShares m = Staking.AddShares.validate m := rfl
  rw [validate, mapError_eq_ok, hcheck, Staking.AddShares.validate, guard_eq_ok, List.isEmpty_iff,
    ← Staking.firstRepeated?_nil_eq_none_iff]
  cases Staking.firstRepeated? [] m.validators with
  | none => exact and_congr_right fun _ => iff_of_true rfl rfl
  | some address => exact and_congr_right fun _ => iff_of_false nofun nofun

/-! ### Texts of validators -/

namespace Params

variable {texts shuffled : List String} {addresses : List ValidatorAddress}

/-- The text of an address in lower case, as it is written, or in upper case. -/
def Denotes (text : String) (address : ValidatorAddress) : Prop := text = address.text ∨ text = address.text.toUpper

theorem parse_eq_ok_iff_denotes {text : String} {address : ValidatorAddress} :
    Address.parse text = .ok address ↔ Denotes text address :=
  TextKind.parse_eq_ok_iff (.address .validator)

/-- A text denotes one address at most. -/
theorem rightUnique_denotes : Relator.RightUnique Denotes := fun _ _ _ ha hb =>
  Except.ok.inj ((parse_eq_ok_iff_denotes.2 ha).symm.trans (parse_eq_ok_iff_denotes.2 hb))

/-- A list is accepted where its texts denote addresses and the addresses are distinct. -/
theorem checkValidators_eq_ok_iff :
    checkValidators texts = .ok addresses ↔ texts ≠ [] ∧ List.Forall₂ Denotes texts addresses ∧ addresses.Nodup := by
  have hparsed (found : List ValidatorAddress) :
      (texts.mapM fun text => ((Address.parse text).mapError .value : Except ClientError ValidatorAddress)) = .ok found ↔
        List.Forall₂ Denotes texts found := by
    simp only [mapM_eq_ok_iff, mapError_eq_ok, parse_eq_ok_iff_denotes]
  have hsearch {found : List ValidatorAddress} (h : List.Forall₂ Denotes texts found) :
      repeated? [] (found.zip texts) = none ↔ found.Nodup := by
    rw [repeated?_eq_none_iff, List.map_fst_zip h.length_eq.ge, Staking.firstRepeated?_nil_eq_none_iff]
  refine guard_eq_ok.trans (and_congr (not_congr List.isEmpty_iff) (bind_eq_ok.trans ?_))
  simp only [hparsed]
  constructor
  · rintro ⟨found, hfound, hlast⟩
    cases hrepeated : repeated? [] (found.zip texts) with
    | some text =>
      rw [hrepeated] at hlast
      cases hlast
    | none =>
      rw [hrepeated] at hlast
      cases hlast
      exact ⟨hfound, (hsearch hfound).1 hrepeated⟩
  · rintro ⟨hdenotes, hnodup⟩
    refine ⟨addresses, hdenotes, ?_⟩
    rw [(hsearch hdenotes).2 hnodup]
    rfl

/-! ### Lists of distinct addresses -/

/-- Two texts that do not denote the same bytes. -/
def Apart (left right : String) : Prop := ∀ a b, Denotes left a → Denotes right b → a.bytes ≠ b.bytes

theorem Apart.symm {left right : String} (h : Apart left right) : Apart right left := fun a b ha hb => (h b a hb ha).symm

/-- Texts of addresses are told apart by what is left of them in lower case. -/
theorem apart_iff {left right : String} {a b : ValidatorAddress} (ha : Denotes left a) (hb : Denotes right b) :
    Apart left right ↔ left.toLower ≠ right.toLower := by
  have hleft : a.text = left.toLower := TextKind.text_eq_toLower (.address .validator) (parse_eq_ok_iff_denotes.2 ha)
  have hright : b.text = right.toLower := TextKind.text_eq_toLower (.address .validator) (parse_eq_ok_iff_denotes.2 hb)
  rw [← hleft, ← hright]
  constructor
  · intro h htext
    have hsame : Denotes right a := hb.imp (fun heq => heq.trans htext.symm) fun heq => heq.trans (by rw [htext])
    exact h a a ha hsame rfl
  · intro hne c d hc hd hbytes
    obtain rfl := rightUnique_denotes ha hc
    obtain rfl := rightUnique_denotes hb hd
    exact hne (congrArg Address.text (Address.bytes_injective hbytes))

theorem nodup_iff_bytes : addresses.Nodup ↔ (addresses.map Address.bytes).Nodup :=
  (List.nodup_map_iff Address.bytes_injective).symm

/-- What a list is accepted for is seen in its texts. -/
theorem exists_checkValidators_iff :
    (∃ addresses, checkValidators texts = .ok addresses) ↔
      texts ≠ [] ∧ (∀ text ∈ texts, ∃ address, Denotes text address) ∧ texts.Pairwise Apart := by
  have hapart {found : List ValidatorAddress} (h : List.Forall₂ Denotes texts found) :
      found.Nodup ↔ texts.Pairwise Apart := by
    rw [nodup_iff_bytes, List.Nodup, List.pairwise_map]
    exact pairwise_iff_of_forall₂ rightUnique_denotes h
  simp only [checkValidators_eq_ok_iff, ← exists_forall₂_iff]
  constructor
  · rintro ⟨found, hne, hfound, hnodup⟩
    exact ⟨hne, ⟨found, hfound⟩, (hapart hfound).1 hnodup⟩
  · rintro ⟨hne, ⟨found, hfound⟩, hpairwise⟩
    exact ⟨found, hne, hfound, (hapart hfound).2 hpairwise⟩

/-- Whether a list is accepted does not depend on its order. -/
theorem exists_checkValidators_congr (h : texts.Perm shuffled) :
    (∃ addresses, checkValidators texts = .ok addresses) ↔ ∃ addresses, checkValidators shuffled = .ok addresses := by
  have hempty : texts = [] ↔ shuffled = [] := by rw [← List.length_eq_zero_iff, h.length_eq, List.length_eq_zero_iff]
  rw [exists_checkValidators_iff, exists_checkValidators_iff, Ne, hempty, h.pairwise_iff Apart.symm]
  simp only [h.mem_iff]

theorem checkValidators_map_text (hne : addresses ≠ []) (hnodup : addresses.Nodup) :
    checkValidators (addresses.map Address.text) = .ok addresses := by
  refine checkValidators_eq_ok_iff.2 ⟨by simpa using hne, ?_, hnodup⟩
  rw [List.forall₂_map_left_iff, List.forall₂_same]
  exact fun address _ => .inl rfl

theorem ne_nil_and_nodup_of_checkValidators (h : checkValidators texts = .ok addresses) :
    addresses ≠ [] ∧ addresses.Nodup := by
  obtain ⟨hne, hdenotes, hnodup⟩ := checkValidators_eq_ok_iff.1 h
  refine ⟨?_, hnodup⟩
  rintro rfl
  exact hne (List.forall₂_nil_right_iff.1 hdenotes)

/-- **Validators by value.** A list is accepted exactly when it is not empty, each text is that of an operator in lower or upper case, and no two texts denote the same bytes, which is to say that they differ in lower case too; the addresses are what the texts denote, one by one. The order of the list does not matter for that. An accepted list becomes a message that passes the check of the message, and the texts of any message that passes the check are an accepted list. -/
theorem validators_by_value :
    (∀ texts addresses, checkValidators texts = .ok addresses ↔
      texts ≠ [] ∧ List.Forall₂ Denotes texts addresses ∧ (addresses.map Address.bytes).Nodup) ∧
    (∀ texts, (∃ addresses, checkValidators texts = .ok addresses) ↔
      texts ≠ [] ∧ (∀ text ∈ texts, ∃ address, Denotes text address) ∧ texts.Pairwise Apart) ∧
    (∀ left right a b, Denotes left a → Denotes right b → (Apart left right ↔ left.toLower ≠ right.toLower)) ∧
    (∀ texts shuffled, texts.Perm shuffled →
      ((∃ addresses, checkValidators texts = .ok addresses) ↔ ∃ addresses, checkValidators shuffled = .ok addresses)) ∧
    (∀ texts addresses, checkValidators texts = .ok addresses → ∀ author : KeyInfo, ∃ m : Staking.AddShares,
      m = { delegator := author.address, validators := addresses } ∧
      (TxRequest.addShares texts).message author = .ok ⟨.addShares, m⟩ ∧ MessageKind.validate .addShares m = .ok ()) ∧
    ∀ m : Staking.AddShares, MessageKind.validate .addShares m = .ok () →
      checkValidators (m.validators.map Address.text) = .ok m.validators := by
  refine ⟨fun texts addresses => ?decoded, fun texts => exists_checkValidators_iff, fun _ _ _ _ => apart_iff,
    fun _ _ => exists_checkValidators_congr, fun texts addresses h author => ⟨_, rfl, ?built, ?passes⟩,
    fun m hvalid => ?texts⟩
  case decoded => rw [checkValidators_eq_ok_iff, nodup_iff_bytes]
  case built => exact bind_eq_ok.2 ⟨addresses, h, rfl⟩
  case passes => exact MessageKind.validate_addShares_eq_ok_iff.2 (ne_nil_and_nodup_of_checkValidators h)
  case texts =>
    obtain ⟨hne, hnodup⟩ := MessageKind.validate_addShares_eq_ok_iff.1 hvalid
    exact checkValidators_map_text hne hnodup

/-- The operator with the bytes 21 to 40. -/
def otherOperator : ValidatorAddress := ⟨(List.range 20).map fun i => UInt8.ofNat (i + 21), by decide⟩

/-- Two operators, one of them in upper case, are accepted in both orders; one operator in both cases is a duplicate. -/
theorem validators_by_value_two :
    checkValidators ["EXVALOPER1QYPQXPQ9QCRSSZG2PVXQ6RS0ZQG3YYC5PVSLT3", "exvaloper1z5tpwxqergd3c8g7ruszzg3rysjjvfegkfy3r8"] =
      .ok [TextKind.sampleOperator, otherOperator] ∧
    (∃ addresses, checkValidators ["exvaloper1z5tpwxqergd3c8g7ruszzg3rysjjvfegkfy3r8",
      "EXVALOPER1QYPQXPQ9QCRSSZG2PVXQ6RS0ZQG3YYC5PVSLT3"] = .ok addresses) ∧
    checkValidators ([TextKind.sampleOperator, otherOperator].map Address.text) =
      .ok [TextKind.sampleOperator, otherOperator] ∧
    ¬ ∃ addresses, checkValidators ["EXVALOPER1QYPQXPQ9QCRSSZG2PVXQ6RS0ZQG3YYC5PVSLT3",
      TextKind.sampleOperator.text] = .ok addresses := by
  obtain ⟨haccepted, hexists, -, hshuffled, hmessage, htexts⟩ := validators_by_value
  have hfirst : Denotes "EXVALOPER1QYPQXPQ9QCRSSZG2PVXQ6RS0ZQG3YYC5PVSLT3" TextKind.sampleOperator :=
    parse_eq_ok_iff_denotes.1 TextKind.parse_sampleOperator
  have hsecond : Denotes "exvaloper1z5tpwxqergd3c8g7ruszzg3rysjjvfegkfy3r8" otherOperator :=
    parse_eq_ok_iff_denotes.1 (by decide +kernel)
  have hboth := (haccepted _ _).2 ⟨List.cons_ne_nil _ _, .cons hfirst (.cons hsecond .nil), by decide⟩
  refine ⟨hboth, (hshuffled _ _ (.swap _ _ _)).1 ⟨_, hboth⟩, ?_, fun hduplicate => ?_⟩
  · let author : KeyInfo := { name := "alice", address := TextKind.sampleOperator.inRole .account, publicKey := [] }
    obtain ⟨m, rfl, -, hvalid⟩ := hmessage _ _ hboth author
    have hback := htexts _ hvalid
    exact hback
  · obtain ⟨-, -, hpairwise⟩ := (hexists _).1 hduplicate
    exact List.pairwise_pair.1 hpairwise TextKind.sampleOperator TextKind.sampleOperator hfirst (.inl rfl) rfl

end Params

end ChainClient
