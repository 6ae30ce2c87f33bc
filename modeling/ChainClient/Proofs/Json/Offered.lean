import ChainClient.Json.Wire
import ChainClient.Proofs.Json.Assembly
import ChainClient.Proofs.Outcome

/-!
# Objects that are asked for one member

A record of one field may be read from any object that has a member with its key just once: the other members are passed over, wherever they stand and whatever they hold. All that is needed of them is that they are free of syntax errors, which a text has nowhere if it is exactly one value.
-/

namespace ChainClient.Json

/-! ### Complete texts have no syntax errors -/

theorem soundItems_iff {items : List Document} : soundItems items ↔ ∀ item ∈ items, item.sound := by
  induction items with
  | nil => simp [soundItems]
  | cons item items ih => simp [soundItems, ih]

theorem soundMembers_iff {members : List (Option String × Document)} :
    soundMembers members ↔ ∀ member ∈ members, member.2.sound := by
  induction members with
  | nil => simp [soundMembers]
  | cons member members ih => simp [soundMembers, ih]

theorem sound_arr_reverse {items : List Document} (h : ∀ item ∈ items, item.sound) :
    (Document.arr items.reverse).sound := by
  rw [Document.sound, soundItems_iff]
  intro item hitem
  exact h item (List.mem_reverse.1 hitem)

theorem sound_obj_reverse {members : List (Option String × Document)} (h : ∀ member ∈ members, member.2.sound) :
    (Document.obj members.reverse).sound := by
  rw [Document.sound, soundMembers_iff]
  intro member hmember
  exact h member (List.mem_reverse.1 hmember)

/-- What a token brings in is free of syntax errors. -/
def Token.Sound : Token → Prop
  | word document => document.sound
  | _ => True

/-- What a container holds so far is free of syntax errors. -/
def Frame.Sound : Frame → Prop
  | array items => ∀ item ∈ items, item.sound
  | object members _ => ∀ member ∈ members, member.2.sound

namespace Assembly

/-- The syntax has failed, or there are no errors in all that has been assembled. -/
def Sound : Assembly → Prop
  | value outer | firstItem outer | firstKey outer => ∀ frame ∈ outer, frame.Sound
  | afterItem items outer => ∀ frame ∈ Frame.array items :: outer, frame.Sound
  | nextKey members outer | afterMember members outer => ∀ frame ∈ Frame.object members none :: outer, frame.Sound
  | colon members key outer => ∀ frame ∈ Frame.object members key :: outer, frame.Sound
  | finished root => root.sound
  | failed _ => True

variable {state : Assembly} {outer : List Frame} {token : Token}

theorem sound_fail (state : Assembly) : state.fail.Sound := by
  cases state <;> exact trivial

theorem sound_deliver {document : Document} (hdocument : document.sound) (h : ∀ frame ∈ outer, frame.Sound) :
    (deliver document outer).Sound := by
  cases outer with
  | nil => exact hdocument
  | cons frame outer =>
    obtain ⟨hframe, houter⟩ := List.forall_mem_cons.1 h
    cases frame <;> exact List.forall_mem_cons.2 ⟨List.forall_mem_cons.2 ⟨hdocument, hframe⟩, houter⟩

theorem sound_open? (htoken : token.Sound) (h : ∀ frame ∈ outer, frame.Sound) :
    ∀ next ∈ open? outer token, next.Sound := by
  intro next hnext
  cases token with
  | openArray | openObject =>
    cases hnext
    exact h
  | text read =>
    cases read <;> (cases hnext; exact sound_deliver rfl h)
  | word document =>
    cases hnext
    exact sound_deliver htoken h
  | _ => cases hnext

theorem sound_getD_open? (htoken : token.Sound) (h : ∀ frame ∈ outer, frame.Sound) (state : Assembly) :
    ((open? outer token).getD state.fail).Sound := by
  cases hopen : open? outer token with
  | none => exact sound_fail state
  | some next => exact sound_open? htoken h next hopen

theorem sound_step (h : state.Sound) (htoken : token.Sound) : (state.step token).Sound := by
  fun_cases step state token with
  | case1 outer => exact sound_getD_open? htoken h _
  | case2 outer => exact sound_deliver rfl h
  | case3 outer =>
    have hempty : (Frame.array []).Sound := List.forall_mem_nil _
    exact sound_getD_open? htoken (List.forall_mem_cons.2 ⟨hempty, h⟩) _
  | case4 items outer => exact h
  | case5 items outer =>
    obtain ⟨hitems, houter⟩ := List.forall_mem_cons.1 h
    exact sound_deliver (sound_arr_reverse hitems) houter
  | case6 outer => exact sound_deliver rfl h
  | case7 outer key => exact List.forall_mem_cons.2 ⟨List.forall_mem_nil _, h⟩
  | case8 members outer key =>
    obtain ⟨hmembers, houter⟩ := List.forall_mem_cons.1 h
    exact List.forall_mem_cons.2 ⟨hmembers, houter⟩
  | case9 members key outer => exact h
  | case10 members outer => exact h
  | case11 members outer =>
    obtain ⟨hmembers, houter⟩ := List.forall_mem_cons.1 h
    exact sound_deliver (sound_obj_reverse hmembers) houter
  | case12 => exact sound_fail _

theorem sound_foldl {tokens : List Token} (htokens : ∀ token ∈ tokens, token.Sound) (h : state.Sound) :
    (tokens.foldl step state).Sound := by
  induction tokens generalizing state with
  | nil => exact h
  | cons token tokens ih =>
    obtain ⟨htoken, hrest⟩ := List.forall_mem_cons.1 htokens
    exact ih hrest (sound_step h htoken)

theorem eq_finished_of_result {root : Document} (h : state.result = (root, true)) : state = finished root := by
  cases state with
  | finished found =>
    cases h
    rfl
  | _ => cases h

end Assembly

theorem sound_ofWord (raw : Bytes) : (Token.ofWord raw).Sound := by
  unfold Token.ofWord
  dsimp only
  repeat' split
  all_goals first | rfl | trivial

theorem sound_ofString (raw : Bytes) : (Token.ofString raw).Sound := by
  unfold Token.ofString
  split <;> trivial

theorem sound_ofPunctuation? (byte : UInt8) : ∀ token ∈ Token.ofPunctuation? byte, token.Sound := by
  intro token htoken
  unfold Token.ofPunctuation? at htoken
  split at htoken <;> (cases htoken; try trivial)

/-- Tokens start with a string, white space or a byte that stands for itself. -/
theorem sound_tokens_between {byte : UInt8} {rest : Bytes} (hstring : ∀ token ∈ tokensFrom (.inString []) rest, token.Sound)
    (hbetween : ∀ token ∈ tokensFrom .between rest, token.Sound) :
    ∀ token ∈ (if byte = 34 then tokensFrom (.inString []) rest
      else if byte = 32 ∨ byte = 9 ∨ byte = 10 ∨ byte = 13 then tokensFrom .between rest
      else match Token.ofPunctuation? byte with
        | some token => token :: tokensFrom .between rest
        | none => [.bad]), token.Sound := by
  split
  · exact hstring
  · split
    · exact hbetween
    · cases hbyte : Token.ofPunctuation? byte with
      | none => exact List.forall_mem_singleton.2 trivial
      | some token => exact List.forall_mem_cons.2 ⟨sound_ofPunctuation? byte token hbyte, hbetween⟩

theorem sound_tokensFrom (scan : Scan) (bytes : Bytes) : ∀ token ∈ tokensFrom scan bytes, token.Sound := by
  induction bytes generalizing scan with
  | nil =>
    cases scan with
    | between => exact nofun
    | inWord run => exact List.forall_mem_singleton.2 (sound_ofWord _)
    | inString run | escaped run => exact List.forall_mem_singleton.2 trivial
  | cons byte rest ih =>
    cases scan with
    | between =>
      rw [tokensFrom]
      split
      · exact ih _
      · exact sound_tokens_between (ih _) (ih _)
    | inWord run =>
      rw [tokensFrom]
      split
      · exact ih _
      · exact List.forall_mem_cons.2 ⟨sound_ofWord _, sound_tokens_between (ih _) (ih _)⟩
    | inString run =>
      rw [tokensFrom]
      split
      · exact List.forall_mem_cons.2 ⟨sound_ofString _, ih _⟩
      · split
        · exact ih _
        · split
          · exact List.forall_mem_singleton.2 trivial
          · exact ih _
    | escaped run => exact ih _

/-- A text that is exactly one value has no syntax error anywhere in it. -/
theorem Document.sound_of_ofBytes {bytes : Bytes} {root : Document} (h : ofBytes bytes = (root, true)) : root.sound := by
  have hsound : ((tokens bytes).foldl Assembly.step (.value [])).Sound :=
    Assembly.sound_foldl (sound_tokensFrom .between bytes) nofun
  rw [Assembly.eq_finished_of_result h] at hsound
  exact hsound

/-! ### Members under one key -/

/-- What an object has under a key says this text: the text stands there once as a string, or there is no text when nothing or `null` stands there. -/
inductive States : Option String → List Document → Prop where
  | text (text : String) : States (some text) [.str text]
  | null : States none [.null]
  | missing : States none []

/-- The documents under a key. -/
def under (key : String) (members : List (String × Document)) : List Document :=
  (members.filter fun member => member.1 = key).map Prod.snd

/-- The bytes are an object, among whatever else is in it with this text under the key, or without one. -/
def Offers (key : String) (text : Option String) (bytes : Bytes) : Prop :=
  ∃ members : List (String × Document),
    Document.ofBytes bytes = (.obj (members.map fun member => (some member.1, member.2)), true) ∧
      States text (under key members)

theorem under_cons_self (key : String) (document : Document) (members : List (String × Document)) :
    under key ((key, document) :: members) = document :: under key members := by
  simp [under]

theorem under_cons_of_ne {key other : String} (h : other ≠ key) (document : Document)
    (members : List (String × Document)) : under key ((other, document) :: members) = under key members := by
  simp [under, h]

/-- What is written of fields in JSON offers what the fields do. -/
theorem offers_bytes {depth : Nat} {fields : List (String × Json)} {key : String} {text : Option String}
    (h : (obj fields).Plain depth) (hstates : States text (under key (fields.map fun field => (field.1, field.2.document)))) :
    Offers key text (obj fields).bytes := by
  refine ⟨_, ?_, hstates⟩
  rw [ofBytes_bytes h, document, documentFields_eq_map, List.map_map]
  rfl

end ChainClient.Json

namespace ChainClient.Wire

open Json

variable {α : Type} {wire : Wire α} {presence : Presence α} {key : String} {depth : Nat}
  {members : List (String × Document)}

namespace Fields

theorem put_of_ne {other : String} {document : Document} (h : key ≠ other) (hsound : document.sound)
    (slots : (cons key wire presence nil).Slots) :
    (cons key wire presence nil).put depth other document slots = .ok slots := by
  have hnil : nil.put depth other document slots.2 = .ok slots.2 := if_pos hsound
  rw [put, if_neg h, hnil]
  rfl

/-- Members under other keys are passed over. -/
theorem putAll_of_under_eq_nil (hsound : ∀ member ∈ members, member.2.sound) (h : under key members = [])
    (slots : (cons key wire presence nil).Slots) :
    (cons key wire presence nil).putAll depth (members.map fun member => (some member.1, member.2)) slots = .ok slots := by
  induction members with
  | nil => rfl
  | cons member members ih =>
    obtain ⟨other, document⟩ := member
    obtain ⟨hdocument, hrest⟩ := List.forall_mem_cons.1 hsound
    by_cases hkey : key = other
    · subst hkey
      rw [under_cons_self] at h
      cases h
    · rw [under_cons_of_ne (Ne.symm hkey)] at h
      rw [List.map_cons, putAll, put_of_ne hkey hdocument]
      exact ih hrest h

theorem putAll_of_under_eq_singleton (hsound : ∀ member ∈ members, member.2.sound) {document : Document} {value : α}
    (h : under key members = [document]) (hread : wire.read depth document = .ok value) :
    (cons key wire presence nil).putAll depth (members.map fun member => (some member.1, member.2))
      (cons key wire presence nil).empty = .ok (some value, ()) := by
  induction members with
  | nil => cases h
  | cons member members ih =>
    obtain ⟨other, first⟩ := member
    obtain ⟨hfirst, hrest⟩ := List.forall_mem_cons.1 hsound
    by_cases hkey : key = other
    · subst hkey
      rw [under_cons_self] at h
      obtain ⟨rfl, hnone⟩ := List.cons.inj h
      have hput : (cons key wire presence nil).put depth key first (cons key wire presence nil).empty =
          .ok (some value, ()) := by
        rw [put, if_pos rfl, hread]
        rfl
      rw [List.map_cons, putAll, hput]
      exact putAll_of_under_eq_nil hrest hnone _
    · rw [under_cons_of_ne (Ne.symm hkey)] at h
      rw [List.map_cons, putAll, put_of_ne hkey hfirst]
      exact ih hrest h

end Fields

/-- A record whose only field is an optional text is read as the text that an object offers. -/
theorem readBytes_of_offers {make : Option String × Unit → α} {parts : α → Option String × Unit} {text : Option String}
    {bytes : Bytes} (h : Offers key text bytes) :
    (record (optionalField key (option string) none .nil) parts make).readBytes bytes = .ok (make (text, ())) := by
  obtain ⟨members, hbytes, hstates⟩ := h
  have hsound : ∀ member ∈ members, member.2.sound := by
    have hmembers := soundMembers_iff.1 (Document.sound_of_ofBytes hbytes)
    intro member hmember
    exact hmembers _ (List.mem_map_of_mem hmember)
  have hread : (optionalField key (option string) none .nil).read maxDepth
      (.obj (members.map fun member => (some member.1, member.2))) = .ok (text, ()) := by
    rw [optionalField, maxDepth, Fields.read]
    generalize hunder : under key members = documents at hstates
    cases hstates with
    | text text =>
      rw [Fields.putAll_of_under_eq_singleton hsound hunder rfl]
      rfl
    | null =>
      rw [Fields.putAll_of_under_eq_singleton hsound hunder rfl]
      rfl
    | missing =>
      rw [Fields.putAll_of_under_eq_nil hsound hunder]
      rfl
  rw [Wire.readBytes, hbytes]
  simp only [record, hread]
  rfl

end ChainClient.Wire
