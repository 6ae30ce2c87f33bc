import ChainClient.Json.Wire
import ChainClient.Proofs.Json.Contents
import ChainClient.Proofs.Outcome

/-!
# Where the values of a record come from

Whatever a record is read from, an object or an array, each of its values was read from a part of it by the reader of its field, or is the value that the absence of the field stands for. So what holds of all that the readers of the fields return holds of the fields of every record, and the texts that they return stand in the document from which the whole was read.
-/

namespace ChainClient.Wire

open Json

/-- The reader returns this value for some document of which all texts stand in the root. -/
def Returns {α : Type} (root : Document) (wire : Wire α) (value : α) : Prop :=
  ∃ depth document, document.Within root ∧ wire.read depth document = .ok value

namespace Fields

/-- Each value was read by its field or stands for its absence. -/
def Sourced (root : Document) : {γ : Type} → Fields γ → γ → Prop
  | _, nil, _ => True
  | _, cons _ wire presence rest, (value, values) =>
    (wire.Returns root value ∨ presence.fallback? = some value) ∧ rest.Sourced root values

/-- What is in the slots was read by their fields. -/
def Read (root : Document) : {γ : Type} → (fields : Fields γ) → fields.Slots → Prop
  | _, nil, _ => True
  | _, cons _ wire _ rest, slots => (∀ value, slots.1 = some value → wire.Returns root value) ∧ rest.Read root slots.2

variable {root : Document} {γ : Type} {fields : Fields γ} {depth : Nat}

theorem read_empty (root : Document) (fields : Fields γ) : fields.Read root fields.empty := by
  induction fields with
  | nil => trivial
  | cons key wire presence rest ih =>
    refine ⟨fun value h => ?_, ih⟩
    cases h

theorem read_put {key : String} {document : Document} (hdocument : document.Within root)
    {slots slots' : fields.Slots} (h : fields.Read root slots)
    (hput : fields.put depth key document slots = .ok slots') : fields.Read root slots' := by
  induction fields with
  | nil => trivial
  | cons name wire presence rest ih =>
    rw [put] at hput
    split at hput
    · split at hput
      · exact absurd hput (by simp)
      · obtain ⟨value, hvalue, rfl⟩ := map_eq_ok.1 hput
        refine ⟨fun v hv => ?_, h.2⟩
        cases hv
        exact ⟨depth, document, hdocument, hvalue⟩
    · obtain ⟨others, hothers, rfl⟩ := map_eq_ok.1 hput
      exact ⟨h.1, ih h.2 hothers⟩

theorem read_putAll {members : List (Option String × Document)} (hmembers : ∀ m ∈ members, m.2.Within root)
    {slots slots' : fields.Slots} (h : fields.Read root slots)
    (hput : fields.putAll depth members slots = .ok slots') : fields.Read root slots' := by
  induction members generalizing slots with
  | nil =>
    cases hput
    exact h
  | cons m members ih =>
    obtain ⟨hm, hothers⟩ := List.forall_mem_cons.1 hmembers
    obtain ⟨key, document⟩ := m
    cases key with
    | none => exact absurd hput (by simp [putAll])
    | some key =>
      rw [putAll] at hput
      obtain ⟨slots₁, hfirst, hrest⟩ := bind_eq_ok.1 hput
      exact ih hothers (read_put hm h hfirst) hrest

theorem sourced_finish {slots : fields.Slots} {values : γ} (h : fields.Read root slots)
    (hfinish : fields.finish slots = .ok values) : fields.Sourced root values := by
  induction fields with
  | nil => trivial
  | cons name wire presence rest ih =>
    rw [finish] at hfinish
    split at hfinish
    · exact absurd hfinish (by simp)
    · rename_i value hvalue
      obtain ⟨values, hvalues, rfl⟩ := map_eq_ok.1 hfinish
      refine ⟨?_, ih h.2 hvalues⟩
      rcases Option.or_eq_some_iff.1 hvalue with hslot | ⟨-, hfallback⟩
      · exact .inl (h.1 value hslot)
      · exact .inr hfallback

theorem sourced_readItems {documents : List Document} (hdocuments : ∀ d ∈ documents, d.Within root) {values : γ}
    (h : fields.readItems depth documents = .ok values) : fields.Sourced root values := by
  induction fields generalizing documents with
  | nil => trivial
  | cons name wire presence rest ih =>
    cases documents with
    | nil =>
      rw [readItems] at h
      split at h
      · exact absurd h (by simp)
      · rename_i value hvalue
        obtain ⟨values, hvalues, rfl⟩ := map_eq_ok.1 h
        exact ⟨.inr hvalue, ih hdocuments hvalues⟩
    | cons document documents =>
      obtain ⟨hdocument, hothers⟩ := List.forall_mem_cons.1 hdocuments
      rw [readItems] at h
      obtain ⟨value, hvalue, hrest⟩ := bind_eq_ok.1 h
      obtain ⟨values, hvalues, hpair⟩ := bind_eq_ok.1 hrest
      cases hpair
      exact ⟨.inl ⟨depth, document, hdocument, hvalue⟩, ih hothers hvalues⟩

theorem sourced_read {document : Document} (hdocument : document.Within root) {values : γ}
    (h : fields.read depth document = .ok values) : fields.Sourced root values := by
  unfold read at h
  split at h
  · obtain ⟨slots, hslots, hfinish⟩ := bind_eq_ok.1 h
    exact sourced_finish (read_putAll (fun _ => hdocument.member) (read_empty root fields) hslots) hfinish
  · exact sourced_readItems (fun _ => hdocument.item) h
  · exact absurd h (by simp)

end Fields

variable {root : Document}

theorem returns_record {α γ : Type} {fields : Fields γ} {parts : α → γ} {make : γ → α} {value : α}
    (h : (record fields parts make).Returns root value) : ∃ values, fields.Sourced root values ∧ make values = value := by
  obtain ⟨depth, document, hdocument, hread⟩ := h
  obtain ⟨values, hvalues, hmake⟩ := map_eq_ok.1 hread
  exact ⟨values, Fields.sourced_read hdocument hvalues, hmake⟩

theorem returns_of_mem_list {α : Type} {wire : Wire α} {values : List α} (h : (list wire).Returns root values) {value : α}
    (hvalue : value ∈ values) : wire.Returns root value := by
  obtain ⟨depth, document, hdocument, hread⟩ := h
  cases depth with
  | zero => exact absurd hread (by cases document <;> simp [list])
  | succ depth =>
    cases document with
    | arr items =>
      obtain ⟨item, hitem, hvalue⟩ := exists_of_mem_mapM hread hvalue
      exact ⟨depth, item, hdocument.item hitem, hvalue⟩
    | _ => exact absurd hread (by simp [list])

theorem returns_of_option {α : Type} {wire : Wire α} {value : α} (h : (option wire).Returns root (some value)) :
    wire.Returns root value := by
  obtain ⟨depth, document, hdocument, hread⟩ := h
  simp only [option] at hread
  split at hread
  · cases hread
  · obtain ⟨found, hfound, hsome⟩ := map_eq_ok.1 hread
    cases hsome
    exact ⟨_, _, hdocument, hfound⟩

theorem returns_of_required {α : Type} {wire : Wire α} {value : α}
    (h : wire.Returns root value ∨ Presence.required.fallback? = some value) : wire.Returns root value :=
  h.resolve_right (by simp [Presence.fallback?])

theorem returns_of_default {α : Type} {wire : Wire α} {absent value : α}
    (h : wire.Returns root value ∨ (Presence.default absent).fallback? = some value) :
    wire.Returns root value ∨ value = absent :=
  h.imp_right fun hfallback => (Option.some.inj hfallback).symm

/-! ### Texts that were read -/

theorem holds_of_returns_string {text : String} (h : string.Returns root text) : root.Holds text := by
  obtain ⟨depth, document, hdocument, hread⟩ := h
  cases document with
  | str found =>
    cases hread
    exact hdocument.holds
  | _ => exact absurd hread (by simp [string])

theorem holds_of_returns_texted {α : Type} {write : α → String} {read? : String → Option α} {value : α}
    (h : (texted write read?).Returns root value) : ∃ text, root.Holds text ∧ read? text = some value := by
  obtain ⟨depth, document, hdocument, hread⟩ := h
  cases document with
  | str text =>
    simp only [texted] at hread
    split at hread
    · rename_i found hfound
      cases hread
      exact ⟨text, hdocument.holds, hfound⟩
    · cases hread
  | _ => exact absurd hread (by simp [texted])

theorem holds_of_returns_parsed {α : Type} {write : α → String} {parse : String → Except ValueError α} {value : α}
    (h : (parsed write parse).Returns root value) : ∃ text, root.Holds text ∧ parse text = .ok value := by
  obtain ⟨depth, document, hdocument, hread⟩ := h
  cases document with
  | str text => exact ⟨text, hdocument.holds, mapError_eq_ok.1 hread⟩
  | _ => exact absurd hread (by simp [parsed])

theorem value?_of_returns_freeForm {value : Json} (h : freeForm.Returns root value) :
    ∃ depth, ∃ document : Document, document.Within root ∧ document.value? depth = some value := by
  obtain ⟨depth, document, hdocument, hread⟩ := h
  refine ⟨depth, document, hdocument, ?_⟩
  simp only [freeForm] at hread
  split at hread
  · rename_i found hfound
    cases hread
    exact hfound
  · cases hread

theorem within_of_returns_freeForm {value : Json} (h : freeForm.Returns root value) : value.document.Within root := by
  obtain ⟨depth, document, hdocument, hvalue⟩ := value?_of_returns_freeForm h
  exact (Document.within_of_value? hvalue).trans hdocument

/-! ### Whole texts -/

theorem returns_of_readBytes {α : Type} {wire : Wire α} {bytes : Bytes} {value : α}
    (h : wire.readBytes bytes = .ok value) : wire.Returns (Document.ofBytes bytes).1 value := by
  unfold readBytes at h
  generalize Document.ofBytes bytes = result at h ⊢
  obtain ⟨document, complete⟩ := result
  obtain ⟨found, hfound, hcomplete⟩ := bind_eq_ok.1 h
  cases complete with
  | false => cases hcomplete
  | true =>
    cases hcomplete
    exact ⟨maxDepth, document, .refl _, hfound⟩

theorem returns_of_readJson {α : Type} {wire : Wire α} {content : Json} {value : α} (hcontent : content.document.Within root)
    (h : wire.readJson content = .ok value) : wire.Returns root value :=
  ⟨maxDepth, content.document, hcontent, h⟩

end ChainClient.Wire
