import ChainClient.Client.Query
import ChainClient.Proofs.Client.Operation
import ChainClient.Proofs.Rpc.Answer
import ChainClient.Proofs.Text.Pieces

/-!
# Hashes that name transactions

The text of a hash is read twice. The client checks it before it asks the node: one mark may stand in front of the 64 digits and nothing else. The connection to the server reads it again, trims it, drops any number of marks, and fills up what is short. On what the client lets through the second reader has nothing left to do, since no digit is blank and none begins a mark: both read the same 32 bytes.
-/

namespace ChainClient

/-- The text is these digits, perhaps with one mark in front. -/
def MarkedDigits (text : String) (digits : List Char) : Prop := text.toList = digits ∨ text.toList = '0' :: 'x' :: digits

/-- The texts that name a hash: 64 digits of any case, perhaps with one mark in front. -/
def NamesHash (text : String) : Prop :=
  ∃ digits, MarkedDigits text digits ∧ digits.length = 64 ∧ ∀ c ∈ digits, c ∈ Hex.alphabet

variable {text : String} {digits : List Char} {bytes : Bytes}

theorem namesHash_iff :
    NamesHash text ↔ ∃ digits bytes, MarkedDigits text digits ∧ Hex.pairs? digits = some bytes ∧ bytes.length = 32 := by
  refine exists_congr fun digits => ?_
  rw [exists_and_left, Hex.exists_pairs?_iff]

theorem Hex.decode_of_pairs? (htext : MarkedDigits text digits) (h : pairs? digits = some bytes) :
    decode text = .ok bytes := by
  rw [decode_eq_ok_iff]
  rcases htext with htext | htext
  · rw [htext, dropMark_of_digits (digits_of_pairs? h).2, h]
  · rw [htext, dropMark, h]

/-! ### The reader of the client -/

namespace Params

theorem checkHash_eq_ok_iff : checkHash text = .ok bytes ↔ Hex.decode text = .ok bytes ∧ bytes.length = 32 := by
  rw [checkHash, bind_eq_ok]
  constructor
  · rintro ⟨read, hread, hrest⟩
    obtain ⟨hlength, hbytes⟩ := guard_eq_ok.1 hrest
    cases hbytes
    exact ⟨mapError_eq_ok.1 hread, not_not.1 hlength⟩
  · rintro ⟨hread, hlength⟩
    exact ⟨bytes, mapError_eq_ok.2 hread, guard_eq_ok.2 ⟨not_not.2 hlength, rfl⟩⟩

theorem exists_checkHash_iff : (∃ bytes, checkHash text = .ok bytes) ↔ NamesHash text := by
  rw [namesHash_iff]
  constructor
  · rintro ⟨bytes, h⟩
    obtain ⟨hdecode, hlength⟩ := checkHash_eq_ok_iff.1 h
    exact ⟨_, bytes, Hex.dropMark_cases text.toList, Hex.decode_eq_ok_iff.1 hdecode, hlength⟩
  · rintro ⟨digits, bytes, htext, hpairs, hlength⟩
    exact ⟨bytes, checkHash_eq_ok_iff.2 ⟨Hex.decode_of_pairs? htext hpairs, hlength⟩⟩

end Params

/-! ### The reader of the connection -/

namespace Rpc

theorem dropMarks_of_digits (h : ∀ c ∈ digits, c ∈ Hex.alphabet) : dropMarks digits = digits := by
  unfold dropMarks
  split
  · exact absurd (h 'x' (by simp)) (by decide)
  · rfl

/-- The upper case of digits denotes the same bytes. -/
theorem pairs?_flatMap_upperDigits (h : ∀ c ∈ digits, c ∈ Hex.alphabet) :
    Hex.pairs? (digits.flatMap upperDigits) = Hex.pairs? digits := by
  have hdigit : ∀ c ∈ Hex.alphabet, upperDigits c = [c.toUpper] ∧ Hex.digit? c.toUpper = Hex.digit? c :=
    List.all_iff_forall_prop.1 (by decide)
  induction digits using Hex.pairs?.induct with
  | case1 => rfl
  | case2 c =>
    rw [List.flatMap_singleton, (hdigit c (h c (by simp))).1]
    rfl
  | case3 high low rest ih =>
    obtain ⟨hhigh, h⟩ := List.forall_mem_cons.1 h
    obtain ⟨hlow, h⟩ := List.forall_mem_cons.1 h
    obtain ⟨hupper, hvalue⟩ := hdigit high hhigh
    obtain ⟨hupper', hvalue'⟩ := hdigit low hlow
    rw [List.flatMap_cons, List.flatMap_cons, hupper, hupper', List.singleton_append, List.singleton_append,
      Hex.pairs?, Hex.pairs?, hvalue, hvalue', ih h]

theorem parseTxHash_of_pairs? (htext : MarkedDigits text digits) (h : Hex.pairs? digits = some bytes)
    (hlength : bytes.length = 32) : parseTxHash text = .ok bytes := by
  have hdigits := (Hex.digits_of_pairs? h).2
  have hvisible : ∀ c ∈ Hex.alphabet, Text.isBlank c = false := List.all_iff_forall_prop.1 (by decide)
  have hplain : ∀ c ∈ digits, Text.isBlank c = false := fun c hc => hvisible c (hdigits c hc)
  have hdropped : dropMarks (Text.trimChars text.toList) = digits := by
    rcases htext with htext | htext
    · rw [htext, Text.trimChars_eq_self hplain, dropMarks_of_digits hdigits]
    · have hmarked : ∀ c ∈ '0' :: 'x' :: digits, Text.isBlank c = false :=
        List.forall_mem_cons.2 ⟨by decide, List.forall_mem_cons.2 ⟨by decide, hplain⟩⟩
      rw [htext, Text.trimChars_eq_self hmarked, dropMarks, dropMarks_of_digits hdigits]
  have hread : txHash? text = some bytes := by
    rw [txHash?, hdropped]
    exact digestOfHex?_of_pairs? ((pairs?_flatMap_upperDigits hdigits).trans h) (.inr hlength)
  rw [parseTxHash, hread]

end Rpc

/-! ### What the node is asked -/

/-- A transaction is looked up in one call with the text as it is, if the text passes the check. -/
theorem Query.run_tx (session : Session) (hash : String) (prove : Bool) :
    (NamesHash hash → ((Query.tx hash prove).perform.run session).2 = [.tx hash prove]) ∧
    (¬ NamesHash hash → ((Query.tx hash prove).perform.run session).2 = []) := by
  rw [Operation.run_eq, Query.perform, Operation.runFrom_ofExcept_bind, ← Params.exists_checkHash_iff]
  cases Params.checkHash hash with
  | error e => exact ⟨fun ⟨_, h⟩ => absurd h nofun, fun _ => rfl⟩
  | ok bytes =>
    dsimp only
    rw [Operation.runFrom_ask]
    exact ⟨fun _ => rfl, fun h => absurd ⟨bytes, rfl⟩ h⟩

/-- The texts that are written of bytes: in either case, with a mark or without. -/
def writtenHashes (bytes : Bytes) : List String :=
  [Hex.encode bytes, "0x" ++ Hex.encode bytes, Hex.encodeUpper bytes, "0x" ++ Hex.encodeUpper bytes]

theorem exists_digits_of_mem_writtenHashes (h : text ∈ writtenHashes bytes) :
    ∃ digits, MarkedDigits text digits ∧ Hex.pairs? digits = some bytes := by
  have hplain (digits : String) : MarkedDigits digits digits.toList := .inl rfl
  have hmarked (digits : String) : MarkedDigits ("0x" ++ digits) digits.toList := .inr String.toList_append
  rw [writtenHashes] at h
  simp only [List.mem_cons, List.not_mem_nil, or_false] at h
  rcases h with rfl | rfl | rfl | rfl
  · exact ⟨_, hplain _, Hex.pairs?_encode bytes⟩
  · exact ⟨_, hmarked _, Hex.pairs?_encode bytes⟩
  · exact ⟨_, hplain _, Hex.pairs?_encodeUpper bytes⟩
  · exact ⟨_, hmarked _, Hex.pairs?_encodeUpper bytes⟩

/-- **Hashes that name transactions.** The texts that name a hash are put to the node, in one call and as they are, and for no other text is the node called at all. The connection reads what the node is asked for as the 32 bytes that the check has read. What is written of 32 bytes, in either case, with a mark or without, is read as these bytes by both. -/
theorem hash_readers_agree :
    (∀ (session : Session) (hash : String) (prove : Bool),
      (NamesHash hash → ((Query.tx hash prove).perform.run session).2 = [.tx hash prove]) ∧
      (¬ NamesHash hash → ((Query.tx hash prove).perform.run session).2 = []) ∧
      ∀ asked proven, .tx asked proven ∈ ((Query.tx hash prove).perform.run session).2 →
        ∃ bytes, bytes.length = 32 ∧ Hex.decode hash = .ok bytes ∧ Rpc.parseTxHash asked = .ok bytes) ∧
    ∀ bytes : Bytes, bytes.length = 32 → ∀ text ∈ writtenHashes bytes,
      Hex.decode text = .ok bytes ∧ Rpc.parseTxHash text = .ok bytes := by
  refine ⟨fun session hash prove => ?asked, fun bytes hlength text htext => ?written⟩
  case asked =>
    obtain ⟨hnamed, hother⟩ := Query.run_tx session hash prove
    refine ⟨hnamed, hother, fun asked proven hcall => ?_⟩
    by_cases hnames : NamesHash hash
    · rw [hnamed hnames] at hcall
      cases List.mem_singleton.1 hcall
      obtain ⟨digits, bytes, htext, hpairs, hlength⟩ := namesHash_iff.1 hnames
      exact ⟨bytes, hlength, Hex.decode_of_pairs? htext hpairs, Rpc.parseTxHash_of_pairs? htext hpairs hlength⟩
    · rw [hother hnames] at hcall
      exact absurd hcall List.not_mem_nil
  case written =>
    obtain ⟨digits, hmarked, hpairs⟩ := exists_digits_of_mem_writtenHashes htext
    exact ⟨Hex.decode_of_pairs? hmarked hpairs, Rpc.parseTxHash_of_pairs? hmarked hpairs hlength⟩

namespace Sample

/-- A hash in upper case with a mark. -/
def hashText : String := "0x" ++ Hex.encodeUpper (List.replicate 32 0xab)

theorem hashText_mem : hashText ∈ writtenHashes (List.replicate 32 0xab) := by simp [hashText, writtenHashes]

end Sample

open Sample in
/-- A marked hash reaches the node as it is, with another mark in front it does not. -/
theorem hash_readers_agree_marked :
    Hex.decode hashText = .ok (List.replicate 32 0xab) ∧ Rpc.parseTxHash hashText = .ok (List.replicate 32 0xab) ∧
    ∀ session, ((Query.tx hashText true).perform.run session).2 = [.tx hashText true] ∧
      ((Query.tx ("0x" ++ hashText) true).perform.run session).2 = [] := by
  obtain ⟨hasked, hwritten⟩ := hash_readers_agree
  obtain ⟨hdecode, hparse⟩ := hwritten _ List.length_replicate _ hashText_mem
  refine ⟨hdecode, hparse, fun session => ⟨(hasked session _ _).1 ?named, (hasked session _ _).2.1 ?unnamed⟩⟩
  case named =>
    obtain ⟨digits, hmarked, hpairs⟩ := exists_digits_of_mem_writtenHashes hashText_mem
    exact namesHash_iff.2 ⟨digits, _, hmarked, hpairs, List.length_replicate⟩
  case unnamed =>
    have herror : Params.checkHash ("0x" ++ hashText) = .error (.encoding .hexDecode) := by decide +kernel
    rw [← Params.exists_checkHash_iff, herror]
    exact fun ⟨_, h⟩ => absurd h nofun

end ChainClient
