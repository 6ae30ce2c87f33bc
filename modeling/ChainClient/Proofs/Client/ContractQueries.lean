import ChainClient.Client.Query
import ChainClient.Proofs.Client.Operation
import ChainClient.Proofs.Client.Transaction
import ChainClient.Proofs.Codec.Assembled
import ChainClient.Proofs.Encoding.Base64
import ChainClient.Proofs.Encoding.Hex
import ChainClient.Proofs.Json.Offered
import ChainClient.Proofs.Text.Pieces

/-!
# Questions about contracts

The address of a contract and the number of a storage slot may be spelled in many ways, but the node is asked about bytes: the path of a question is written anew of the bytes that were read, so it is the same for all spellings and differs for different bytes. What is no spelling is refused before the node hears of it. The answer is base64 text inside an object, and bytes of any number come back as they were.
-/

namespace ChainClient

/-! ### Spellings of bytes -/

namespace Params

variable {size : Nat} {text : String} {digits : List Char} {bytes other : Bytes}

/-- What may stand in front of digits. -/
def marks : List (List Char) := [[], ['0', 'x'], ['0', 'X']]

/-- The text is these digits between blanks, behind a mark or without one. -/
def Framed (text : String) (digits : List Char) : Prop :=
  ∃ before mark after, text.toList = before ++ (mark ++ digits ++ after) ∧ (∀ c ∈ before, Text.isBlank c) ∧
    mark ∈ marks ∧ ∀ c ∈ after, Text.isBlank c

/-- The digits of the text, in whatever case, are the two of each byte. -/
def Spells (text : String) (bytes : Bytes) : Prop :=
  ∃ digits, Framed text digits ∧ digits.map Char.toLower =
    bytes.flatMap fun byte => [Nat.digitChar (byte.toNat / 16), Nat.digitChar (byte.toNat % 16)]

/-- The text has two hexadecimal digits for each of so many bytes. -/
def SpellsSize (size : Nat) (text : String) : Prop :=
  ∃ digits, Framed text digits ∧ digits.length = 2 * size ∧ ∀ c ∈ digits, c ∈ Hex.alphabet

/-- Both texts spell the same bytes, which are so many. -/
def SpellSame (size : Nat) (left right : String) : Prop :=
  ∃ bytes, bytes.length = size ∧ Spells left bytes ∧ Spells right bytes

/-- What follows the mark, if there is one. -/
def unmarked (cs : List Char) : List Char :=
  match cs with
  | '0' :: 'x' :: rest => rest
  | '0' :: 'X' :: rest => rest
  | _ => cs

theorem fixedHex?_eq (size : Nat) (text : String) : fixedHex? size text =
    (Hex.pairs? (unmarked (Text.trimChars text.toList))).filter fun bytes => bytes.length = size := by
  unfold fixedHex? unmarked
  rfl

theorem exists_mark (cs : List Char) : ∃ mark ∈ marks, cs = mark ++ unmarked cs := by
  unfold unmarked
  split
  · exact ⟨['0', 'x'], by decide, rfl⟩
  · exact ⟨['0', 'X'], by decide, rfl⟩
  · exact ⟨[], by decide, rfl⟩

theorem framed_unmarked (text : String) : Framed text (unmarked (Text.trimChars text.toList)) := by
  obtain ⟨before, after, hbefore, hafter, htext⟩ := Text.exists_trimChars text.toList
  obtain ⟨mark, hmark, htrimmed⟩ := exists_mark (Text.trimChars text.toList)
  refine ⟨before, mark, after, ?_, hbefore, hmark, hafter⟩
  rwa [← htrimmed]

theorem unmarked_of_digits (h : ∀ c ∈ digits, c ∈ Hex.alphabet) : unmarked digits = digits := by
  unfold unmarked
  split
  · exact absurd (h 'x' (by simp)) (by decide)
  · exact absurd (h 'X' (by simp)) (by decide)
  · rfl

/-- Digits are what is left of their text once it is trimmed and the mark is dropped. -/
theorem Framed.unmarked_eq (h : Framed text digits) (hdigits : ∀ c ∈ digits, c ∈ Hex.alphabet) :
    unmarked (Text.trimChars text.toList) = digits := by
  obtain ⟨before, mark, after, htext, hbefore, hmark, hafter⟩ := h
  simp only [marks, List.mem_cons, List.not_mem_nil, or_false] at hmark
  have hvisible : ∀ c ∈ Hex.alphabet, Text.isBlank c = false := List.all_iff_forall_prop.1 (by decide)
  have hmarked : ∀ c ∈ mark, Text.isBlank c = false := by
    rcases hmark with rfl | rfl | rfl <;> exact List.all_iff_forall_prop.1 (by decide)
  have hinside : ∀ c ∈ mark ++ digits, Text.isBlank c = false :=
    List.forall_mem_append.2 ⟨hmarked, fun c hc => hvisible c (hdigits c hc)⟩
  rw [htext, Text.trimChars_append_left hbefore, Text.trimChars_append_right hafter, Text.trimChars_eq_self hinside]
  rcases hmark with rfl | rfl | rfl
  · exact unmarked_of_digits hdigits
  · rfl
  · rfl

theorem spells_iff : Spells text bytes ↔ Hex.pairs? (unmarked (Text.trimChars text.toList)) = some bytes := by
  constructor
  · rintro ⟨digits, hframed, hdigits⟩
    have hpairs := Hex.pairs?_eq_some_iff.2 hdigits
    rwa [hframed.unmarked_eq (Hex.digits_of_pairs? hpairs).2]
  · intro h
    exact ⟨_, framed_unmarked text, Hex.pairs?_eq_some_iff.1 h⟩

theorem Spells.unique (h : Spells text bytes) (hother : Spells text other) : bytes = other := by
  rw [spells_iff] at h hother
  exact Option.some.inj (h.symm.trans hother)

theorem spellsSize_iff : SpellsSize size text ↔ ∃ bytes, bytes.length = size ∧ Spells text bytes := by
  constructor
  · rintro ⟨digits, hframed, hdigits⟩
    obtain ⟨bytes, hpairs, hlength⟩ := Hex.exists_pairs?_iff.2 hdigits
    exact ⟨bytes, hlength, digits, hframed, Hex.pairs?_eq_some_iff.1 hpairs⟩
  · rintro ⟨bytes, hlength, digits, hframed, hdigits⟩
    exact ⟨digits, hframed, Hex.exists_pairs?_iff.1 ⟨bytes, Hex.pairs?_eq_some_iff.2 hdigits, hlength⟩⟩

theorem checkFixedHex_eq_ok_iff {name : String} :
    checkFixedHex name size text = .ok bytes ↔ bytes.length = size ∧ Spells text bytes := by
  have hread : fixedHex? size text = some bytes ↔ bytes.length = size ∧ Spells text bytes := by
    rw [fixedHex?_eq, Option.filter_eq_some_iff, decide_eq_true_iff, spells_iff, and_comm]
  rw [← hread, checkFixedHex]
  cases fixedHex? size text with
  | none => exact iff_of_false nofun nofun
  | some found => rw [Except.ok.injEq, Option.some.injEq]

theorem checkFixedHex_of_not_spellsSize (name : String) (h : ¬ SpellsSize size text) :
    checkFixedHex name size text = .error (.invalidParam name .form) := by
  cases hread : checkFixedHex name size text with
  | ok bytes => exact absurd (spellsSize_iff.2 ⟨bytes, checkFixedHex_eq_ok_iff.1 hread⟩) h
  | error e =>
    rw [checkFixedHex] at hread
    split at hread
    · cases hread
    · cases hread
      rfl

end Params

/-! ### What the node is asked -/

/-- The client of the session was assembled, with this module among others. -/
def Session.AssembledWith (session : Session) (m : Module) : Prop :=
  ∃ modules facade, Facade.assemble none modules = .ok facade ∧ m ∈ modules ∧ session.codec = some facade.codec

namespace Query

open Operation Params

variable {session : Session} {path : String}

/-- The node is asked once, at this path and without data. -/
def Asks (session : Session) (query : Query) (path : String) : Prop :=
  (query.perform.run session).2 = [.query path []]

/-- The argument of this name is refused without a call. -/
def Refuses (session : Session) (query : Query) (name : String) : Prop :=
  query.perform.run session = (.error (.invalidParam name .form), [])

/-- The path of a question about a storage slot. -/
def slotPath (contract slot : Bytes) : String := contractPath "storage" contract ++ "/0x" ++ Hex.encode slot

theorem contractPath_injective {part : String} {left right : Bytes}
    (h : contractPath part left = contractPath part right) : left = right := by
  rw [contractPath, contractPath, String.append_right_inj] at h
  exact Hex.encode_injective h

theorem slotPath_injective {contract other slot otherSlot : Bytes} (hlength : contract.length = other.length)
    (h : slotPath contract slot = slotPath other otherSlot) : contract = other ∧ slot = otherSlot := by
  have hlist := congrArg String.toList h
  simp only [slotPath, contractPath, String.toList_append] at hlist
  obtain ⟨hfront, hslot⟩ := List.append_inj hlist (by simp [Hex.length_encode, hlength])
  obtain ⟨hcontract, -⟩ := List.append_inj' hfront rfl
  have hencode := List.append_cancel_left hcontract
  exact ⟨Hex.encode_injective (String.toList_injective hencode), Hex.encode_injective (String.toList_injective hslot)⟩

/-- What the node answers to the first call of a session, read with the codec. -/
def fetched (session : Session) (path : String) (type : DataType) : Except ClientError type.Value := do
  let result ← (session.node.answer [] (.query path [])).mapError Node.Failure.clientError
  match session.codec with
  | some codec => codec.decode type result.value
  | none => .error .noCodec

theorem runFrom_decoded (session : Session) (path : String) (type : DataType) :
    (decoded path [] type).runFrom session [] = (fetched session path type, [.query path []]) := by
  rw [decoded, runFrom_ask_bind, fetched]
  cases session.node.answer [] (.query path []) with
  | error failure => rfl
  | ok result =>
    dsimp only
    rw [runFrom_bind, runFrom_codec]
    cases session.codec with
    | none => rfl
    | some codec => exact runFrom_ofExcept _

/-- What comes of a query for bytes: nothing is asked when its arguments give no path, and otherwise the answer is read with the codec and taken apart. -/
def outcome (session : Session) (located : Except ClientError String) (type : DataType)
    (parse : type.Value → Except ClientError Bytes) : Except ClientError Bytes × List Node.Call :=
  match located with
  | .ok path => (fetched session path type >>= parse, [.query path []])
  | .error e => (.error e, [])

theorem runFrom_decoded_bind {type : DataType} (parse : type.Value → Except ClientError Bytes) :
    (decoded path [] type >>= fun answer => Operation.ofExcept (parse answer)).runFrom session [] =
      outcome session (.ok path) type parse := by
  rw [runFrom_bind, runFrom_decoded, outcome]
  cases fetched session path type with
  | error e => rfl
  | ok value => exact runFrom_ofExcept _

theorem outcome_calls_eq_iff {located : Except ClientError String} {type : DataType}
    {parse : type.Value → Except ClientError Bytes} :
    (outcome session located type parse).2 = [.query path []] ↔ located = .ok path := by
  cases located with
  | error e => exact iff_of_false nofun nofun
  | ok found =>
    simp only [outcome, List.cons.injEq, Node.Call.query.injEq, and_true, Except.ok.injEq]

theorem fetched_of_answer {m : Module} (h : session.AssembledWith m) {name : String} {type : JsonType}
    (hregistered : .plain name type ∈ m.registrations) {result : Node.QueryResult}
    (hanswer : session.node.answer [] (.query path []) = .ok result) {value : type.Value}
    (hread : type.wire.readBytes result.value = .ok value) : fetched session path (.json type) = .ok value := by
  obtain ⟨modules, facade, hfacade, hmodule, hcodec⟩ := h
  have hfind : facade.codec.find? (.json type) = some (.plain name type) :=
    Facade.find?_of_assemble hfacade (List.mem_append_left _ (List.mem_flatMap.2 ⟨m, hmodule, hregistered⟩))
  have hdecode : facade.codec.decode (.json type) result.value = .ok value :=
    Codec.decode_eq_ok_iff.2 ⟨_, hfind, mapError_eq_ok.2 hread⟩
  rw [fetched, hanswer, hcodec]
  exact hdecode

/-! ### Paths of code and storage -/

/-- The path that the arguments of a question about code give. -/
def codePath (contract : String) : Except ClientError String :=
  (checkFixedHex "contract_addr" 20 contract).map (contractPath "code")

/-- The path that the arguments of a question about storage give. -/
def storagePath (contract slot : String) : Except ClientError String := do
  let bytes ← checkFixedHex "contract_addr" 20 contract
  let slotBytes ← checkFixedHex "key" 32 slot
  return slotPath bytes slotBytes

theorem run_contractCode (session : Session) (contract : String) : (contractCode contract).perform.run session =
    outcome session (codePath contract) (.json (.record .contractCode)) fun answer =>
      (ContractCode.bytes answer).mapError .encoding := by
  rw [run_eq, perform, runFrom_ofExcept_bind, codePath]
  cases checkFixedHex "contract_addr" 20 contract with
  | error e => rfl
  | ok bytes => exact runFrom_decoded_bind _

theorem run_contractStorage (session : Session) (contract slot : String) :
    (contractStorage contract slot).perform.run session =
      outcome session (storagePath contract slot) (.json (.record .storageSlot)) fun answer =>
        (StorageSlot.bytes answer).mapError .encoding := by
  rw [run_eq, perform, runFrom_ofExcept_bind, storagePath]
  cases checkFixedHex "contract_addr" 20 contract with
  | error e => rfl
  | ok bytes =>
    dsimp only
    rw [runFrom_ofExcept_bind]
    cases checkFixedHex "key" 32 slot with
    | error e => rfl
    | ok slotBytes => exact runFrom_decoded_bind _

/-- The node is asked about code at the path of the bytes that are spelled, and about nothing else. -/
theorem contractCode_asks_iff {contract : String} : (contractCode contract).Asks session path ↔
    ∃ bytes, (bytes.length = 20 ∧ Spells contract bytes) ∧ contractPath "code" bytes = path := by
  rw [Asks, run_contractCode, outcome_calls_eq_iff, codePath, map_eq_ok]
  simp only [checkFixedHex_eq_ok_iff]

theorem contractStorage_asks_iff {contract slot : String} : (contractStorage contract slot).Asks session path ↔
    ∃ bytes, (bytes.length = 20 ∧ Spells contract bytes) ∧
      ∃ slotBytes, (slotBytes.length = 32 ∧ Spells slot slotBytes) ∧ slotPath bytes slotBytes = path := by
  rw [Asks, run_contractStorage, outcome_calls_eq_iff, storagePath, bind_eq_ok]
  simp only [bind_eq_ok, checkFixedHex_eq_ok_iff, pure, Except.pure, Except.ok.injEq]

theorem contractCode_refuses (session : Session) {contract : String} (h : ¬ SpellsSize 20 contract) :
    (contractCode contract).Refuses session "contract_addr" := by
  rw [Refuses, run_contractCode, codePath, checkFixedHex_of_not_spellsSize _ h]
  rfl

theorem contractStorage_refuses (session : Session) {contract : String} (h : ¬ SpellsSize 20 contract) (slot : String) :
    (contractStorage contract slot).Refuses session "contract_addr" := by
  rw [Refuses, run_contractStorage, storagePath, checkFixedHex_of_not_spellsSize _ h]
  rfl

theorem contractStorage_refuses_slot (session : Session) {contract slot : String} (h : SpellsSize 20 contract)
    (hslot : ¬ SpellsSize 32 slot) : (contractStorage contract slot).Refuses session "key" := by
  obtain ⟨bytes, hbytes⟩ := spellsSize_iff.1 h
  rw [Refuses, run_contractStorage, storagePath, checkFixedHex_eq_ok_iff.2 hbytes,
    checkFixedHex_of_not_spellsSize _ hslot]
  rfl

theorem contractCode_path_eq_iff {other : Session} {left right otherPath : String}
    (hleft : (contractCode left).Asks session path) (hright : (contractCode right).Asks other otherPath) :
    path = otherPath ↔ SpellSame 20 left right := by
  obtain ⟨bytes, ⟨hlength, hspells⟩, rfl⟩ := contractCode_asks_iff.1 hleft
  obtain ⟨others, ⟨-, hothers⟩, rfl⟩ := contractCode_asks_iff.1 hright
  constructor
  · intro h
    cases contractPath_injective h
    exact ⟨bytes, hlength, hspells, hothers⟩
  · rintro ⟨same, -, hsame, hsame'⟩
    rw [hspells.unique hsame, hothers.unique hsame']

theorem contractStorage_path_eq_iff {other : Session} {left right slot otherSlot otherPath : String}
    (hleft : (contractStorage left slot).Asks session path)
    (hright : (contractStorage right otherSlot).Asks other otherPath) :
    path = otherPath ↔ SpellSame 20 left right ∧ SpellSame 32 slot otherSlot := by
  obtain ⟨bytes, ⟨hlength, hspells⟩, slotBytes, ⟨hslotLength, hslot⟩, rfl⟩ := contractStorage_asks_iff.1 hleft
  obtain ⟨others, ⟨hotherLength, hothers⟩, otherBytes, ⟨-, hotherSlot⟩, rfl⟩ := contractStorage_asks_iff.1 hright
  constructor
  · intro h
    obtain ⟨rfl, rfl⟩ := slotPath_injective (hlength.trans hotherLength.symm) h
    exact ⟨⟨bytes, hlength, hspells, hothers⟩, slotBytes, hslotLength, hslot, hotherSlot⟩
  · rintro ⟨⟨same, -, hsame, hsame'⟩, sameSlot, -, hsameSlot, hsameSlot'⟩
    rw [hspells.unique hsame, hothers.unique hsame', hslot.unique hsameSlot, hotherSlot.unique hsameSlot']

/-! ### Answers -/

/-- When the node answers with an object, the operation returns the bytes whose base64 text stands under the key, and no bytes if `null` or nothing stands there. -/
def ReturnsBytes (operation : Operation Bytes) (key : String) : Prop :=
  ∀ (session : Session) (path : String) (result : Node.QueryResult), session.AssembledWith .evm →
    (operation.run session).2 = [.query path []] → session.node.answer [] (.query path []) = .ok result →
    (∀ bytes, Json.Offers key (some (Base64.encode bytes)) result.value → (operation.run session).1 = .ok bytes) ∧
    (Json.Offers key none result.value → (operation.run session).1 = .ok [])

theorem base64Bytes_encode (bytes : Bytes) : base64Bytes (some (Base64.encode bytes)) = .ok bytes :=
  Base64.decode_encode bytes

/-- Bytes are returned when the answer is a registered record that holds the text under the key. -/
theorem returnsBytes_of_run {operation : Operation Bytes} {located : Except ClientError String} {name key : String}
    {type : JsonType} {parse : type.Value → Except ClientError Bytes}
    (hrun : ∀ session, operation.run session = outcome session located (.json type) parse)
    (hregistered : .plain name type ∈ Module.evm.registrations)
    (hread : ∀ {text reply}, Json.Offers key text reply →
      ∃ value, type.wire.readBytes reply = .ok value ∧ parse value = (base64Bytes text).mapError .encoding) :
    ReturnsBytes operation key := by
  intro session path result hassembled hasked hanswer
  rw [hrun, outcome_calls_eq_iff] at hasked
  have hreturn {text : Option String} (h : Json.Offers key text result.value) :
      (operation.run session).1 = (base64Bytes text).mapError .encoding := by
    obtain ⟨value, hvalue, hparse⟩ := hread h
    rw [hrun, hasked, outcome, fetched_of_answer hassembled hregistered hanswer hvalue]
    exact hparse
  constructor
  · intro bytes h
    rw [hreturn h, base64Bytes_encode, mapError_ok]
  · intro h
    rw [hreturn h]
    rfl

theorem returnsBytes_contractCode (contract : String) : ReturnsBytes (contractCode contract).perform "code" := by
  have hregistered : Registration.plain "okexchain/evm/QueryResCode" (.record .contractCode) ∈ Module.evm.registrations := by
    decide
  apply returnsBytes_of_run (fun session => run_contractCode session contract) hregistered
  intro text reply h
  exact ⟨⟨text⟩, Wire.readBytes_of_offers h, rfl⟩

theorem returnsBytes_contractStorage (contract slot : String) :
    ReturnsBytes (contractStorage contract slot).perform "value" := by
  have hregistered : Registration.plain "okexchain/evm/QueryResStorage" (.record .storageSlot) ∈ Module.evm.registrations := by
    decide
  apply returnsBytes_of_run (fun session => run_contractStorage session contract slot) hregistered
  intro text reply h
  exact ⟨⟨text⟩, Wire.readBytes_of_offers h, rfl⟩

/-- **Contracts are asked about by their bytes.** A text that spells the bytes of a contract, and likewise one that spells those of a slot, is put to the node in one call, at the path that is written of these bytes; a text that spells nothing of this size is refused without a call. So two questions are put at one path exactly if their texts spell the same bytes, whatever sessions they are asked in. What is returned are the bytes that the node answers with in base64, or no bytes where it answers with none. -/
theorem contracts_asked_by_bytes :
    (∀ session contract,
      (SpellsSize 20 contract → ∃ bytes, bytes.length = 20 ∧ Spells contract bytes ∧
        (contractCode contract).Asks session (contractPath "code" bytes)) ∧
      (¬ SpellsSize 20 contract → (contractCode contract).Refuses session "contract_addr")) ∧
    (∀ session contract slot,
      (SpellsSize 20 contract → SpellsSize 32 slot →
        ∃ bytes slotBytes, (bytes.length = 20 ∧ Spells contract bytes) ∧ (slotBytes.length = 32 ∧ Spells slot slotBytes) ∧
          (contractStorage contract slot).Asks session (slotPath bytes slotBytes)) ∧
      (¬ SpellsSize 20 contract → (contractStorage contract slot).Refuses session "contract_addr") ∧
      (SpellsSize 20 contract → ¬ SpellsSize 32 slot → (contractStorage contract slot).Refuses session "key")) ∧
    (∀ session other left right path otherPath,
      (contractCode left).Asks session path → (contractCode right).Asks other otherPath →
        (path = otherPath ↔ SpellSame 20 left right)) ∧
    (∀ session other left right slot otherSlot path otherPath,
      (contractStorage left slot).Asks session path → (contractStorage right otherSlot).Asks other otherPath →
        (path = otherPath ↔ SpellSame 20 left right ∧ SpellSame 32 slot otherSlot)) ∧
    (∀ contract, ReturnsBytes (contractCode contract).perform "code") ∧
    ∀ contract slot, ReturnsBytes (contractStorage contract slot).perform "value" := by
  refine ⟨?code, ?storage, ?codePaths, ?storagePaths, returnsBytes_contractCode, returnsBytes_contractStorage⟩
  case code =>
    intro session contract
    refine ⟨?_, contractCode_refuses session⟩
    intro hsize
    obtain ⟨bytes, hlength, hspells⟩ := spellsSize_iff.1 hsize
    exact ⟨bytes, hlength, hspells, contractCode_asks_iff.2 ⟨bytes, ⟨hlength, hspells⟩, rfl⟩⟩
  case storage =>
    intro session contract slot
    refine ⟨?_, fun h => contractStorage_refuses session h slot, contractStorage_refuses_slot session⟩
    intro hsize hslotSize
    obtain ⟨bytes, hbytes⟩ := spellsSize_iff.1 hsize
    obtain ⟨slotBytes, hslotBytes⟩ := spellsSize_iff.1 hslotSize
    refine ⟨bytes, slotBytes, hbytes, hslotBytes, ?_⟩
    exact contractStorage_asks_iff.2 ⟨bytes, hbytes, slotBytes, hslotBytes, rfl⟩
  case codePaths =>
    intro session other left right path otherPath hleft hright
    exact contractCode_path_eq_iff hleft hright
  case storagePaths =>
    intro session other left right slot otherSlot path otherPath hleft hright
    exact contractStorage_path_eq_iff hleft hright

end Query

namespace Sample

open Params

/-- The bytes of a contract that begin with zeros. -/
def contractBytes : Bytes := List.replicate 19 0 ++ [0xab]

def markedContract : String := " 0X00000000000000000000000000000000000000AB\n"

def plainContract : String := "00000000000000000000000000000000000000ab"

def slotBytes : Bytes := List.replicate 31 0 ++ [7]

def markedSlot : String := "0x" ++ String.ofList (List.replicate 63 '0') ++ "7"

def plainSlot : String := String.ofList (List.replicate 63 '0') ++ "7\t"

theorem spells_markedContract : Spells markedContract contractBytes := spells_iff.2 (by decide +kernel)

theorem spells_plainContract : Spells plainContract contractBytes := spells_iff.2 (by decide +kernel)

theorem spells_markedSlot : Spells markedSlot slotBytes := spells_iff.2 (by decide +kernel)

theorem spells_plainSlot : Spells plainSlot slotBytes := spells_iff.2 (by decide +kernel)

/-- An odd number of digits spells bytes of no size. -/
theorem not_spellsSize_odd (size : Nat) : ¬ SpellsSize size "0x0ab" := by
  intro hsize
  obtain ⟨bytes, -, hspells⟩ := spellsSize_iff.1 hsize
  have hread : Hex.pairs? (unmarked (Text.trimChars "0x0ab".toList)) = none := by decide +kernel
  rw [spells_iff, hread] at hspells
  cases hspells

/-- An answer with code and no value of a slot. -/
def contractFields : List (String × Json) :=
  [("height", .str "7"), ("code", .str (Base64.encode [0x60, 0x80, 0x60])), ("value", .null)]

def contractReply : Bytes := (Json.obj contractFields).bytes

theorem offers_contractReply {key : String} {text : Option String}
    (h : Json.States text (Json.under key (contractFields.map fun field => (field.1, field.2.document)))) :
    Json.Offers key text contractReply := by
  have hplain : (Json.obj contractFields).Plain 1 := by
    simp [contractFields, Json.plain_obj_iff]
  exact Json.offers_bytes hplain h

/-- A client whose node has one answer to every question. -/
def contractsOf (facade : Facade) : Session where
  config := settings
  keyring := ⟨[]⟩
  codec := some facade.codec
  node :=
    { answer
        | _, .query _ _ => .ok ⟨contractReply, 7⟩
        | _, call => .error (.rpc call.operation) }

end Sample

namespace Query

open Params Sample

/-- Two spellings of a contract and of a slot, all zeros but for the end, are asked about at one path, and a text that lacks digits is refused. The node answers with code and without a value. -/
theorem contracts_asked_by_bytes_zeros : ∃ facade, Facade.assemble none [.governance, .evm] = .ok facade ∧
    contractPath "code" contractBytes = "custom/evm/code/0x" ++ plainContract ∧
    (contractCode markedContract).Asks (contractsOf facade) (contractPath "code" contractBytes) ∧
    (contractCode plainContract).Asks (contractsOf facade) (contractPath "code" contractBytes) ∧
    (contractStorage markedContract markedSlot).Asks (contractsOf facade) (slotPath contractBytes slotBytes) ∧
    (contractStorage plainContract plainSlot).Asks (contractsOf facade) (slotPath contractBytes slotBytes) ∧
    (contractCode "0x0ab").Refuses (contractsOf facade) "contract_addr" ∧
    (contractStorage plainContract "0x0ab").Refuses (contractsOf facade) "key" ∧
    ((contractCode markedContract).perform.run (contractsOf facade)).1 = .ok [0x60, 0x80, 0x60] ∧
    ((contractStorage plainContract plainSlot).perform.run (contractsOf facade)).1 = .ok [] := by
  have hmodules : [Module.governance, .evm].Nodup := by decide
  obtain ⟨facade, hfacade, -⟩ := Facade.exists_assemble hmodules
  have hassembled : (contractsOf facade).AssembledWith .evm := ⟨_, facade, hfacade, by decide, rfl⟩
  have hmarked : SpellsSize 20 markedContract := spellsSize_iff.2 ⟨_, rfl, spells_markedContract⟩
  have hplain : SpellsSize 20 plainContract := spellsSize_iff.2 ⟨_, rfl, spells_plainContract⟩
  have hmarkedSlot : SpellsSize 32 markedSlot := spellsSize_iff.2 ⟨_, rfl, spells_markedSlot⟩
  have hplainSlot : SpellsSize 32 plainSlot := spellsSize_iff.2 ⟨_, rfl, spells_plainSlot⟩
  obtain ⟨hcode, hstorage, hcodePaths, hstoragePaths, hreturnsCode, hreturnsStorage⟩ := contracts_asked_by_bytes
  -- The paths are given for the marked texts; those of the plain texts are the same.
  obtain ⟨_, -, hbytes, hasksMarked⟩ := (hcode (contractsOf facade) markedContract).1 hmarked
  obtain rfl := hbytes.unique spells_markedContract
  obtain ⟨_, -, -, hasksPlain⟩ := (hcode (contractsOf facade) plainContract).1 hplain
  have hsame := (hcodePaths _ _ _ _ _ _ hasksMarked hasksPlain).2 ⟨_, rfl, spells_markedContract, spells_plainContract⟩
  rw [← hsame] at hasksPlain
  obtain ⟨_, _, ⟨-, hbytes⟩, ⟨-, hslotBytes⟩, hasksMarkedSlot⟩ :=
    (hstorage (contractsOf facade) markedContract markedSlot).1 hmarked hmarkedSlot
  obtain rfl := hbytes.unique spells_markedContract
  obtain rfl := hslotBytes.unique spells_markedSlot
  obtain ⟨_, _, -, -, hasksPlainSlot⟩ :=
    (hstorage (contractsOf facade) plainContract plainSlot).1 hplain hplainSlot
  have hsameSlot := (hstoragePaths _ _ _ _ _ _ _ _ hasksMarkedSlot hasksPlainSlot).2
    ⟨⟨_, rfl, spells_markedContract, spells_plainContract⟩, _, rfl, spells_markedSlot, spells_plainSlot⟩
  rw [← hsameSlot] at hasksPlainSlot
  refine ⟨facade, hfacade, by decide +kernel, hasksMarked, hasksPlain, hasksMarkedSlot, hasksPlainSlot, ?_, ?_, ?_, ?_⟩
  · exact (hcode _ _).2 (not_spellsSize_odd 20)
  · exact (hstorage _ _ _).2.2 hplain (not_spellsSize_odd 32)
  · exact (hreturnsCode _ _ _ _ hassembled hasksMarked rfl).1 _ (offers_contractReply (.text _))
  · exact (hreturnsStorage _ _ _ _ _ hassembled hasksPlainSlot rfl).2 (offers_contractReply .null)

end Query

end ChainClient
