import Mathlib.Data.Bool.AllAny
import ChainClient.Channel.Escrow
import ChainClient.Channel.Identifier
import ChainClient.Proofs.Outcome
import ChainClient.Proofs.Text.Digits
import ChainClient.Proofs.Text.Pieces
import ChainClient.Proofs.Text.Utf8

/-!
# One pre-image for one end of a channel

The account that keeps the coins of a channel's end is the digest of the texts of its port and its channel, with a slash between them and no length in front. These texts are told apart all the same: an identifier is a short text of letters, digits and a few marks, and the slash is none of them, so the first slash is where the port ends.
-/

namespace ChainClient

/-! ### The grammar of identifiers -/

namespace Identifier

variable {id : String} {min max : Nat}

/-- So many letters, digits and special marks, all of them ASCII. -/
structure Grammar (min max : Nat) (id : String) : Prop where
  shortest : min ≤ id.length
  longest : id.length ≤ max
  characters : ∀ c ∈ id.toList, c.isAlphanum ∨ isSpecial c

theorem ascii_of_isSpecial {c : Char} (h : isSpecial c) : c.toNat < 128 := by
  have hall : ∀ mark ∈ "._+-#[]<>".toList, mark.toNat < 128 := List.all_iff_forall_prop.1 (by decide)
  exact hall c (List.contains_iff_mem.1 h)

/-- An identifier has a byte for each of its characters. -/
theorem utf8ByteSize_eq_length (h : ∀ c ∈ id.toList, c.isAlphanum ∨ isSpecial c) : id.utf8ByteSize = id.length := by
  have hascii : ∀ c ∈ id.toList, c.toNat < 128 := by
    intro c hc
    rcases h c hc with hletter | hspecial
    · exact Nat.lt_of_le_of_lt (Text.toNat_of_isAlphanum hletter).2 (by decide)
    · exact ascii_of_isSpecial hspecial
  have hbytes : (Bytes.ofText id).length = id.utf8ByteSize := rfl
  rw [← hbytes, Bytes.ofText_eq_ofChars, Bytes.ofChars_ascii hascii, List.length_map, String.length_toList]

theorem Grammar.separator_not_mem (h : Grammar min max id) : '/' ∉ id.toList := by
  intro hslash
  exact absurd (h.characters '/' hslash) (by decide)

/-- The checks of an identifier accept exactly the texts of its grammar. -/
theorem validate_eq_ok_iff (hmin : 0 < min) : validate id min max = .ok () ↔ Grammar min max id := by
  constructor
  · intro h
    obtain ⟨-, h⟩ := guard_eq_ok.1 h
    obtain ⟨-, h⟩ := guard_eq_ok.1 h
    obtain ⟨hsize, h⟩ := guard_eq_ok.1 h
    by_cases hall : id.toList.all fun c => c.isAlphanum || isSpecial c
    · have hcharacters : ∀ c ∈ id.toList, c.isAlphanum ∨ isSpecial c := by simpa using hall
      rw [utf8ByteSize_eq_length hcharacters] at hsize
      exact ⟨by omega, by omega, hcharacters⟩
    · rw [if_neg hall] at h
      cases h
  · intro h
    have hsize := utf8ByteSize_eq_length h.characters
    have hfilled : ¬ id.isEmpty := by
      rw [String.isEmpty_iff]
      rintro rfl
      exact absurd (Nat.lt_of_lt_of_le hmin h.shortest) (by decide)
    have hslash : ¬ id.toList.contains '/' := by simpa using h.separator_not_mem
    have hall : id.toList.all fun c => c.isAlphanum || isSpecial c := by simpa using h.characters
    rw [validate, if_neg hfilled, if_neg hslash, if_neg (by have := h.shortest; have := h.longest; omega), if_pos hall]

end Identifier

theorem PortId.parse_eq_ok_iff {text : String} {port : PortId} :
    parse text = .ok port ↔ Identifier.Grammar 2 128 text ∧ port = ⟨text⟩ := by
  rw [parse, map_eq_ok, ← Identifier.validate_eq_ok_iff (by decide)]
  exact ⟨fun ⟨_, hvalid, hport⟩ => ⟨hvalid, hport.symm⟩, fun ⟨hvalid, hport⟩ => ⟨(), hvalid, hport.symm⟩⟩

theorem ChannelId.parse_eq_ok_iff {text : String} {channel : ChannelId} :
    parse text = .ok channel ↔ Identifier.Grammar 8 64 text ∧ channel = ⟨text⟩ := by
  rw [parse, map_eq_ok, ← Identifier.validate_eq_ok_iff (by decide)]
  exact ⟨fun ⟨_, hvalid, hchannel⟩ => ⟨hvalid, hchannel.symm⟩, fun ⟨hvalid, hchannel⟩ => ⟨(), hvalid, hchannel.symm⟩⟩

/-! ### Numbered channels -/

namespace ChannelId

theorem toList_ofCounter (n : UInt64) : (ofCounter n).text.toList = "channel-".toList ++ Text.digits n.toNat :=
  String.toList_ofList

theorem ofCounter_injective : Function.Injective ofCounter := by
  intro m n h
  have htext := congrArg (fun channel : ChannelId => channel.text.toList) h
  simp only [toList_ofCounter, List.append_cancel_left_eq] at htext
  have hvalue := congrArg Text.digitsValue htext
  rw [Text.digitsValue_digits, Text.digitsValue_digits] at hvalue
  exact UInt64.toNat_inj.1 hvalue

/-- A number of 64 bits has twenty digits at most. -/
theorem grammar_ofCounter (n : UInt64) : Identifier.Grammar 8 64 (ofCounter n).text := by
  have hlength : (ofCounter n).text.length = 8 + (Text.digits n.toNat).length := by
    rw [← String.length_toList, toList_ofCounter, List.length_append]
    rfl
  have hdigits : (Text.digits n.toNat).length ≤ 20 :=
    Text.length_digits_le (by decide) (Nat.lt_trans n.toNat_lt (by decide))
  refine ⟨by omega, by omega, fun c hc => ?_⟩
  rw [toList_ofCounter, List.mem_append] at hc
  rcases hc with hname | hnumber
  · have hall : ∀ c ∈ "channel-".toList, c.isAlphanum ∨ Identifier.isSpecial c :=
      List.all_iff_forall_prop.1 (by decide)
    exact hall c hname
  · rw [Char.isAlphanum, Text.isDigit_of_mem_digits hnumber, Bool.or_true]
    exact .inl rfl

@[simp] theorem parse_ofCounter (n : UInt64) : parse (ofCounter n).text = .ok (ofCounter n) :=
  parse_eq_ok_iff.2 ⟨grammar_ofCounter n, rfl⟩

end ChannelId

/-! ### Pre-images -/

namespace Escrow

/-- The texts of a channel's end, both accepted. -/
structure End (port channel : String) : Prop where
  port : ∃ id, PortId.parse port = .ok id
  channel : ∃ id, ChannelId.parse channel = .ok id

theorem End.separator_not_mem {port channel : String} (h : End port channel) : '/' ∉ port.toList := by
  obtain ⟨id, hid⟩ := h.port
  exact (PortId.parse_eq_ok_iff.1 hid).1.separator_not_mem

theorem End.ofCounter {port : String} (h : ∃ id, PortId.parse port = .ok id) (n : UInt64) :
    End port (ChannelId.ofCounter n).text :=
  ⟨h, _, ChannelId.parse_ofCounter n⟩

/-- A port without a slash and whatever stands behind the slash are both found in the pre-image. -/
theorem eq_of_preimage_eq {port channel port' channel' : String} (hport : '/' ∉ port.toList) (hport' : '/' ∉ port'.toList)
    (h : preimage port channel = preimage port' channel') : port = port' ∧ channel = channel' := by
  have htext : port ++ "/" ++ channel = port' ++ "/" ++ channel' :=
    Bytes.ofText_injective (List.cons.inj (List.append_cancel_left h)).2
  have hends (p c : String) : (p ++ "/" ++ c).toList = p.toList ++ '/' :: c.toList := by
    simp [String.toList_append]
  have hsplit := congrArg (fun text : String => Text.splitOnce '/' text.toList) htext
  simp only [hends, Text.splitOnce_append hport, Text.splitOnce_append hport', Option.some.injEq, Prod.mk.injEq,
    String.toList_inj] at hsplit
  exact hsplit

/-- The account of a channel's end is the first twenty bytes of the digest of its pre-image. -/
theorem bytes_address (port channel : String) :
    (address port channel).bytes = (Sha256.hash (preimage port channel)).take 20 := by
  have hlength : 20 ≤ (Sha256.hash (preimage port channel)).length := by
    rw [Sha256.length_hash]
    decide
  exact List.take_append_of_le_length hlength

/-- **Ends of channels.** An account of escrow is the beginning of the digest of a pre-image, and two ends whose ports and channels are accepted never share their pre-image. The chain's own numbers for its channels make accepted identifiers, a different one for each number, so ports and numbers are told apart by their pre-images as well. -/
theorem ends_told_apart :
    (∀ port channel, (address port channel).bytes = (Sha256.hash (preimage port channel)).take 20) ∧
    (∀ port channel port' channel', End port channel → End port' channel' →
      preimage port channel = preimage port' channel' → port = port' ∧ channel = channel') ∧
    (∀ n, ChannelId.parse (ChannelId.ofCounter n).text = .ok (ChannelId.ofCounter n)) ∧
    (∀ m n, ChannelId.ofCounter m = ChannelId.ofCounter n → m = n) ∧
    ∀ port port' m n, (∃ id, PortId.parse port = .ok id) → (∃ id, PortId.parse port' = .ok id) →
      preimage port (ChannelId.ofCounter m).text = preimage port' (ChannelId.ofCounter n).text → port = port' ∧ m = n := by
  refine ⟨bytes_address, fun port channel port' channel' hend hend' => ?ends, ChannelId.parse_ofCounter,
    fun m n h => ChannelId.ofCounter_injective h, fun port port' m n hport hport' h => ?numbers⟩
  case ends => exact eq_of_preimage_eq hend.separator_not_mem hend'.separator_not_mem
  case numbers =>
    have hend := End.ofCounter hport m
    have hend' := End.ofCounter hport' n
    obtain ⟨hsame, hchannel⟩ := eq_of_preimage_eq hend.separator_not_mem hend'.separator_not_mem h
    exact ⟨hsame, ChannelId.ofCounter_injective (congrArg ChannelId.mk hchannel)⟩

/-- The first channel of the transfer port by its text and by its number, and the port of another name. -/
theorem ends_told_apart_transfer :
    "channel-0" = (ChannelId.ofCounter 0).text ∧
    preimage "transfer" "channel-0" ≠ preimage "transfers" "channel-0" ∧
    ∀ n, preimage "transfer" (ChannelId.ofCounter n).text = preimage "transfer" "channel-0" → n = 0 := by
  have hport : ∃ id, PortId.parse "transfer" = .ok id := ⟨.transfer, rfl⟩
  have hother : ∃ id, PortId.parse "transfers" = .ok id := ⟨⟨"transfers"⟩, rfl⟩
  have hchannel : ∃ id, ChannelId.parse "channel-0" = .ok id := ⟨⟨"channel-0"⟩, rfl⟩
  obtain ⟨-, hends, -, -, hnumbers⟩ := ends_told_apart
  have hfirst := hends "transfer" "channel-0" "transfer" _ ⟨hport, hchannel⟩ (.ofCounter hport 0) rfl
  refine ⟨hfirst.2, fun h => ?_, fun n h => ?_⟩
  · exact absurd (hends _ _ _ _ ⟨hport, hchannel⟩ ⟨hother, hchannel⟩ h).1 (by decide)
  · rw [hfirst.2] at h
    exact (hnumbers _ _ n 0 hport hport h).2

end Escrow

end ChainClient
