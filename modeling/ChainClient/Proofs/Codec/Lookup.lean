import Mathlib.Data.List.Pairwise
import ChainClient.Codec.Registry
import ChainClient.Proofs.Outcome

/-!
# What a codec finds

A codec takes a registration only if both its name and its type are new to it. So a sequence of registrations is taken as a whole exactly when no two of them clash, the codec then finds each of them by its type and nothing else, and the order they came in makes no difference. Since the names differ too, an envelope is read as at most one of the concrete types.
-/

namespace ChainClient

namespace Registration

/-- Two registrations that one codec may hold: they share neither the name nor the type. -/
def Apart (r s : Registration) : Prop := r.name ≠ s.name ∧ r.type ≠ s.type

variable {r s : Registration} {calls shuffled : List Registration}

theorem Apart.symm (h : r.Apart s) : s.Apart r := ⟨h.1.symm, h.2.symm⟩

instance : Std.Symm Apart := ⟨fun _ _ => Apart.symm⟩

theorem not_apart_iff : ¬ r.Apart s ↔ r.name = s.name ∨ r.type = s.type := by
  rw [Apart, ne_eq, ne_eq, ← not_or, not_not]

theorem pairwise_apart_iff : calls.Pairwise Apart ↔
    ¬ ∃ i j : Fin calls.length, i < j ∧ (calls[i].name = calls[j].name ∨ calls[i].type = calls[j].type) := by
  rw [List.pairwise_iff_get]
  constructor
  · rintro h ⟨i, j, hij, hclash⟩
    exact not_apart_iff.2 hclash (h i j hij)
  · intro h i j hij
    by_contra hclash
    exact h ⟨i, j, hij, not_apart_iff.1 hclash⟩

theorem pairwise_apart_of_perm (h : calls.Perm shuffled) : calls.Pairwise Apart ↔ shuffled.Pairwise Apart :=
  h.pairwise_iff Apart.symm

theorem pairwise_apart_reverse : calls.reverse.Pairwise Apart ↔ calls.Pairwise Apart :=
  pairwise_apart_of_perm (List.reverse_perm calls)

theorem apart_of_mem (hcalls : calls.Pairwise Apart) (hr : r ∈ calls) (hs : s ∈ calls) (hne : r ≠ s) : r.Apart s :=
  hcalls.forall hr hs hne

end Registration

namespace Codec

open Registration

variable {codec larger : Codec} {calls shuffled : List Registration}

/-! ### Registering -/

theorem hasName_eq_false_iff {name : String} :
    codec.hasName name = false ↔ ∀ s ∈ codec.registrations, name ≠ s.name := by
  rw [hasName, List.any_eq_false]
  exact forall₂_congr fun s _ => by rw [beq_iff_eq, ne_comm]

theorem find?_eq_none_iff {type : DataType} :
    codec.find? type = none ↔ ∀ s ∈ codec.registrations, type ≠ s.type := by
  rw [find?, List.find?_eq_none]
  exact forall₂_congr fun s _ => by rw [decide_eq_true_iff, ne_comm]

/-- One registration: it is taken if it is apart from all that are there, and then stands in front of them. -/
theorem register_eq_ok_iff {r : Registration} : codec.register r = .ok larger ↔
    (∀ s ∈ codec.registrations, r.Apart s) ∧ larger = ⟨r :: codec.registrations⟩ := by
  have hapart : (∀ s ∈ codec.registrations, r.Apart s) ↔ codec.hasName r.name = false ∧ codec.find? r.type = none := by
    rw [hasName_eq_false_iff, find?_eq_none_iff]
    exact forall₂_and
  rw [hapart, register, guard_eq_ok, Bool.not_eq_true, and_assoc]
  refine and_congr_right fun _ => ?_
  cases codec.find? r.type with
  | some existing => simp
  | none => simp [eq_comm]

/-- A sequence of registrations: it is taken as a whole if they are apart from each other and from all that are there. -/
theorem registerAll_eq_none_iff : codec.registerAll calls = (larger, none) ↔
    calls.Pairwise Apart ∧ (∀ r ∈ calls, ∀ s ∈ codec.registrations, r.Apart s) ∧
      larger = ⟨calls.reverse ++ codec.registrations⟩ := by
  induction calls generalizing codec with
  | nil => simp [registerAll, eq_comm]
  | cons r rest ih =>
    rw [registerAll, List.pairwise_cons, List.forall_mem_cons]
    cases hregister : codec.register r with
    | ok next =>
      obtain ⟨hnew, rfl⟩ := register_eq_ok_iff.1 hregister
      have hrest : (∀ t ∈ rest, ∀ s ∈ r :: codec.registrations, t.Apart s) ↔
          (∀ t ∈ rest, r.Apart t) ∧ ∀ t ∈ rest, ∀ s ∈ codec.registrations, t.Apart s := by
        simp only [List.forall_mem_cons, forall₂_and]
        exact and_congr_left fun _ => forall₂_congr fun t _ => ⟨Apart.symm, Apart.symm⟩
      have hback : (r :: rest).reverse ++ codec.registrations = rest.reverse ++ r :: codec.registrations := by
        rw [List.reverse_cons, List.append_assoc, List.singleton_append]
      rw [ih, hrest, hback]
      constructor
      · rintro ⟨hpairwise, ⟨hr, hall⟩, rfl⟩
        exact ⟨⟨hr, hpairwise⟩, ⟨hnew, hall⟩, rfl⟩
      · rintro ⟨⟨hr, hpairwise⟩, ⟨-, hall⟩, rfl⟩
        exact ⟨hpairwise, ⟨hr, hall⟩, rfl⟩
    | error e =>
      refine iff_of_false (by simp) ?_
      rintro ⟨-, ⟨hnew, -⟩, -⟩
      have hok := register_eq_ok_iff.2 ⟨hnew, rfl⟩
      rw [hregister] at hok
      cases hok

theorem registerAll_empty_eq_none_iff :
    empty.registerAll calls = (codec, none) ↔ calls.Pairwise Apart ∧ codec = ⟨calls.reverse⟩ := by
  simp [registerAll_eq_none_iff, empty]

theorem registerAll_empty_eq_some_iff :
    (∃ e, (empty.registerAll calls).2 = some e) ↔ ¬ calls.Pairwise Apart := by
  rw [← Option.isSome_iff_exists, ← Option.ne_none_iff_isSome, ne_eq, not_iff_not]
  constructor
  · intro h
    exact (registerAll_empty_eq_none_iff.1 (Prod.ext rfl h)).1
  · intro h
    rw [registerAll_empty_eq_none_iff.2 ⟨h, rfl⟩]

/-! ### Looking up -/

section Found

variable {type : DataType} {r : Registration}

theorem type_of_find? (h : codec.find? type = some r) : r.type = type := by
  simpa using List.find?_some h

theorem registration_eq_ok_iff : codec.registration type = .ok r ↔ codec.find? type = some r := by
  rw [registration]
  cases codec.find? type with
  | none => exact iff_of_false nofun nofun
  | some found => rw [Except.ok.injEq, Option.some.injEq]

theorem encode_eq_ok_iff {value : type.Value} {bytes : Bytes} : codec.encode type value = .ok bytes ↔
    ∃ r, codec.find? type = some r ∧ encodeAs r type value = bytes := by
  rw [encode, map_eq_ok]
  exact exists_congr fun r => and_congr_left fun _ => registration_eq_ok_iff

theorem decode_of_find? (h : codec.find? type = some r) (bytes : Bytes) :
    codec.decode type bytes = (decodeAs r type bytes).mapError (.decode r.name bytes.length) := by
  rw [decode, h]

theorem decode_eq_ok_iff {bytes : Bytes} {value : type.Value} : codec.decode type bytes = .ok value ↔
    ∃ r, codec.find? type = some r ∧ decodeAs r type bytes = .ok value := by
  cases hfind : codec.find? type with
  | none =>
    rw [decode, hfind]
    exact iff_of_false nofun nofun
  | some r =>
    rw [decode_of_find? hfind, mapError_eq_ok]
    constructor
    · intro hread
      exact ⟨r, rfl, hread⟩
    · rintro ⟨found, hfound, hread⟩
      cases hfound
      exact hread

end Found

/-- Where all registrations are apart, the one that is found for a type is the one that is there. -/
theorem find?_eq_some_iff (hcodec : codec.registrations.Pairwise Apart) {type : DataType} {r : Registration} :
    codec.find? type = some r ↔ r ∈ codec.registrations ∧ r.type = type := by
  constructor
  · intro h
    exact ⟨List.mem_of_find?_eq_some h, type_of_find? h⟩
  · rintro ⟨hr, rfl⟩
    cases hfound : codec.find? r.type with
    | none => exact absurd rfl (find?_eq_none_iff.1 hfound r hr)
    | some s =>
      by_contra hne
      have hother : s ≠ r := fun h => hne (congrArg some h)
      exact (apart_of_mem hcodec (List.mem_of_find?_eq_some hfound) hr hother).2 (type_of_find? hfound)

theorem find?_of_registerAll (h : empty.registerAll calls = (codec, none)) {type : DataType} {r : Registration} :
    codec.find? type = some r ↔ r ∈ calls ∧ r.type = type := by
  obtain ⟨hapart, hcodec⟩ := registerAll_empty_eq_none_iff.1 h
  have hall : codec.registrations.Pairwise Apart := by
    rw [hcodec]
    exact pairwise_apart_reverse.2 hapart
  rw [find?_eq_some_iff hall, hcodec, List.mem_reverse]

theorem isRegistered_iff {type : DataType} : codec.isRegistered type ↔ ∃ r, codec.find? type = some r := by
  rw [isRegistered, Option.isSome_iff_exists]

/-- A registered type has the name, the style, the writer and the reader of its registration. -/
structure Serves (codec : Codec) (r : Registration) : Prop where
  registration : codec.registration r.type = .ok r
  style : codec.style? r.type = some r.style
  encode : ∀ value, codec.encode r.type value = .ok (encodeAs r r.type value)
  decode : ∀ bytes, codec.decode r.type bytes = (decodeAs r r.type bytes).mapError (.decode r.name bytes.length)

theorem serves_of_find? {r : Registration} (h : codec.find? r.type = some r) : codec.Serves r := by
  constructor
  · exact registration_eq_ok_iff.2 h
  · rw [style?, h, Option.map_some]
  · intro value
    exact encode_eq_ok_iff.2 ⟨r, h, rfl⟩
  · exact decode_of_find? h

/-- Nothing that is written, read or wrapped tells one codec from the other. -/
structure Agrees (a b : Codec) : Prop where
  encode : a.encode = b.encode
  decode : a.decode = b.decode
  marshalJson : a.marshalJson = b.marshalJson
  unmarshalJson : a.unmarshalJson = b.unmarshalJson
  toTxMessage : a.toTxMessage = b.toTxMessage

theorem agrees_of_find? {a b : Codec} (h : a.find? = b.find?) : a.Agrees b := by
  have hregistration : a.registration = b.registration := by
    funext type
    rw [registration, registration, h]
  have hencode : a.encode = b.encode := by
    funext type value
    rw [Codec.encode, Codec.encode, hregistration]
  have hdecode : a.decode = b.decode := by
    funext type bytes
    rw [Codec.decode, Codec.decode, h]
  constructor
  · exact hencode
  · exact hdecode
  · funext type value
    rw [Codec.marshalJson, Codec.marshalJson, hregistration, hencode]
  · funext type bytes
    rw [Codec.unmarshalJson, Codec.unmarshalJson, style?, style?, h, hdecode]
  · funext kind body
    rw [Codec.toTxMessage, Codec.toTxMessage, hregistration]

theorem agrees_of_perm {a b : Codec} (hperm : calls.Perm shuffled) (ha : empty.registerAll calls = (a, none))
    (hb : empty.registerAll shuffled = (b, none)) : a.Agrees b := by
  apply agrees_of_find?
  funext type
  apply Option.ext
  intro r
  rw [find?_of_registerAll ha, find?_of_registerAll hb, hperm.mem_iff]

/-! ### Reading envelopes -/

theorem typeName_of_decodeEnvelope {name : String} {type : JsonType} {bytes : Bytes} {value : type.Value}
    (h : decodeEnvelope name type bytes = .ok value) :
    ∃ envelope, Envelope.wire.readBytes bytes = .ok envelope ∧ envelope.typeName = name := by
  obtain ⟨envelope, hread, hrest⟩ := bind_eq_ok.1 h
  obtain ⟨hname, -⟩ := guard_eq_ok.1 hrest
  exact ⟨envelope, mapError_eq_ok.1 hread, not_not.1 hname⟩

/-- Bytes that are read as a concrete type are an envelope with its name. -/
theorem typeName_of_decodeAs {r : Registration} (hstyle : r.style = .concrete) {bytes : Bytes} {value : r.type.Value}
    (h : decodeAs r r.type bytes = .ok value) :
    ∃ envelope, Envelope.wire.readBytes bytes = .ok envelope ∧ envelope.typeName = r.name := by
  cases r with
  | concrete name type => exact typeName_of_decodeEnvelope h
  | plain name type => cases hstyle
  | proto name type => cases hstyle

/-- Since no two registrations share their name, an envelope is read as one concrete type at most. -/
theorem eq_of_decode (hcodec : empty.registerAll calls = (codec, none)) {bytes : Bytes} {r s : Registration}
    (hr : r ∈ calls) (hs : s ∈ calls) (hrStyle : r.style = .concrete) (hsStyle : s.style = .concrete)
    {valueOfR : r.type.Value} {valueOfS : s.type.Value} (hrRead : codec.decode r.type bytes = .ok valueOfR)
    (hsRead : codec.decode s.type bytes = .ok valueOfS) : r = s := by
  have hrServes : codec.Serves r := serves_of_find? ((find?_of_registerAll hcodec).2 ⟨hr, rfl⟩)
  have hsServes : codec.Serves s := serves_of_find? ((find?_of_registerAll hcodec).2 ⟨hs, rfl⟩)
  rw [hrServes.decode, mapError_eq_ok] at hrRead
  rw [hsServes.decode, mapError_eq_ok] at hsRead
  obtain ⟨envelope, hread, hrName⟩ := typeName_of_decodeAs hrStyle hrRead
  obtain ⟨again, hagain, hsName⟩ := typeName_of_decodeAs hsStyle hsRead
  have hsame : envelope = again := Except.ok.inj (hread.symm.trans hagain)
  have hnames : r.name = s.name := by rw [← hrName, ← hsName, hsame]
  by_contra hne
  exact (apart_of_mem (registerAll_empty_eq_none_iff.1 hcodec).1 hr hs hne).1 hnames

/-! ### Sequences of registrations -/

/-- **Registration.** A sequence of registrations is refused exactly when two of them share a name or a type. Otherwise the codec holds as many registrations as were made, serves each of them as it was made, finds no other type, and reads no bytes as two concrete types. The order of the sequence decides neither whether it is refused nor what the codec does. -/
theorem registerAll_exact (calls : List Registration) :
    ((∃ e, (empty.registerAll calls).2 = some e) ↔
      ∃ i j : Fin calls.length, i < j ∧ (calls[i].name = calls[j].name ∨ calls[i].type = calls[j].type)) ∧
    (∀ codec, empty.registerAll calls = (codec, none) →
      codec.size = calls.length ∧ (∀ r ∈ calls, codec.Serves r) ∧
      (∀ type, codec.isRegistered type ↔ ∃ r ∈ calls, r.type = type) ∧
      ∀ bytes, ∀ r ∈ calls, ∀ s ∈ calls, r.style = .concrete → s.style = .concrete →
        (∃ value, codec.decode r.type bytes = .ok value) → (∃ value, codec.decode s.type bytes = .ok value) → r = s) ∧
    ∀ shuffled, calls.Perm shuffled →
      ((∃ e, (empty.registerAll calls).2 = some e) ∧ ∃ e, (empty.registerAll shuffled).2 = some e) ∨
      ∃ codec other, empty.registerAll calls = (codec, none) ∧ empty.registerAll shuffled = (other, none) ∧
        codec.Agrees other := by
  refine ⟨?refused, ?taken, ?shuffled⟩
  case refused => rw [registerAll_empty_eq_some_iff, pairwise_apart_iff, not_not]
  case taken =>
    intro codec hcodec
    refine ⟨?size, ?served, ?registered, ?concrete⟩
    case size =>
      rw [(registerAll_empty_eq_none_iff.1 hcodec).2]
      exact List.length_reverse
    case served =>
      intro r hr
      exact serves_of_find? ((find?_of_registerAll hcodec).2 ⟨hr, rfl⟩)
    case registered =>
      intro type
      rw [isRegistered_iff]
      exact exists_congr fun r => find?_of_registerAll hcodec
    case concrete =>
      rintro bytes r hr s hs hrStyle hsStyle ⟨valueOfR, hrRead⟩ ⟨valueOfS, hsRead⟩
      exact eq_of_decode hcodec hr hs hrStyle hsStyle hrRead hsRead
  case shuffled =>
    intro shuffled hperm
    simp only [registerAll_empty_eq_some_iff, ← pairwise_apart_of_perm hperm]
    by_cases hapart : calls.Pairwise Apart
    · right
      have htaken := registerAll_empty_eq_none_iff.2 ⟨hapart, rfl⟩
      have hother := registerAll_empty_eq_none_iff.2 ⟨(pairwise_apart_of_perm hperm).1 hapart, rfl⟩
      exact ⟨_, _, htaken, hother, agrees_of_perm hperm htaken hother⟩
    · exact .inl ⟨hapart, hapart⟩

/-- A message, the transaction and the coin are registered in either order. The bytes of a transaction are then not read as the message, and the message is not taken again under another name. -/
theorem registerAll_exact_vote :
    let tx : Registration := .concrete "cosmos-sdk/StdTx" (.record .tx)
    let coin : Registration := .plain "okexchain/DecCoin" (.record .coin)
    let calls := [.message .vote, tx, coin]
    let bytes := Bytes.ofText ("\x7b\"type\":\"cosmos-sdk/StdTx\",\"value\":\x7b\"msg\":[],\"fee\":" ++
      "\x7b\"amount\":[],\"gas\":\"7\"\x7d,\"signatures\":[],\"memo\":\"\"\x7d\x7d")
    (∃ codec other, empty.registerAll calls = (codec, none) ∧ empty.registerAll calls.reverse = (other, none) ∧
      codec.size = 3 ∧ codec.Serves coin ∧
      codec.isRegistered coin.type ∧ ¬ codec.isRegistered (.json (.record .height)) ∧
      (∃ value, codec.decode tx.type bytes = .ok value) ∧
      (¬ ∃ value, codec.decode (Registration.message .vote).type bytes = .ok value) ∧ codec.Agrees other) ∧
    ∃ e, (empty.registerAll (calls ++ [.plain "vote" (.message .vote)])).2 = some e := by
  intro tx coin calls bytes
  have hcodec : empty.registerAll calls = (⟨calls.reverse⟩, none) := rfl
  have hother : empty.registerAll calls.reverse = (⟨calls⟩, none) := rfl
  obtain ⟨-, htaken, hshuffled⟩ := registerAll_exact calls
  obtain ⟨hsize, hserves, hregistered, hexclusive⟩ := htaken _ hcodec
  have hdecode : ∃ value, decode ⟨calls.reverse⟩ tx.type bytes = .ok value := ⟨_, rfl⟩
  have hvote : ¬ ∃ value, decode ⟨calls.reverse⟩ (Registration.message .vote).type bytes = .ok value := by
    intro hread
    have hsame := hexclusive bytes tx (by decide) (.message .vote) (by decide) rfl rfl hdecode hread
    exact absurd hsame (by decide)
  have hagrees : Agrees ⟨calls.reverse⟩ ⟨calls⟩ := by
    rcases hshuffled calls.reverse calls.reverse_perm.symm with ⟨⟨e, he⟩, -⟩ | ⟨codec, other, hc, ho, hagrees⟩
    · rw [hcodec] at he
      cases he
    · cases hcodec.symm.trans hc
      cases hother.symm.trans ho
      exact hagrees
  refine ⟨⟨_, _, hcodec, hother, hsize, hserves coin (by decide), ?_, ?_, hdecode, hvote, hagrees⟩, ?_⟩
  · exact (hregistered _).2 ⟨coin, by decide, rfl⟩
  · rw [hregistered]
    decide
  · exact (registerAll_exact _).1.2 ⟨⟨0, by decide⟩, ⟨3, by decide⟩, by decide, .inr rfl⟩

end Codec

end ChainClient
