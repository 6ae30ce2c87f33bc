import ChainClient.Proofs.Json.Order
import ChainClient.Proofs.Text.Utf8

/-!
# Values up to the order of fields

Two values are the same up to the order of fields when one becomes the other by moving fields inside objects, at any depth; nothing else about them may differ. Sorting does just that to a value, as long as no object in it repeats a key, and it leaves no trace of where the fields stood: what is the same up to the order of fields becomes one value, in which the keys of every object ascend by their bytes.
-/

namespace ChainClient.Json

/-! ### Objects at any depth -/

/-- The first value is the second or stands somewhere inside it. -/
inductive Occurs (part : Json) : Json → Prop where
  | root : Occurs part part
  | item {items : List Json} {item : Json} (hitem : item ∈ items) (h : Occurs part item) : Occurs part (arr items)
  | field {fields : List (String × Json)} {field : String × Json} (hfield : field ∈ fields) (h : Occurs part field.2) :
    Occurs part (obj fields)

/-- The fields of every object have the property, at whatever depth it stands. -/
def Everywhere (p : List (String × Json) → Prop) (value : Json) : Prop := ∀ fields, Occurs (obj fields) value → p fields

section Everywhere

variable {p : List (String × Json) → Prop}

theorem everywhere_arr_iff {items : List Json} : (arr items).Everywhere p ↔ ∀ item ∈ items, item.Everywhere p := by
  constructor
  · intro h item hitem fields hfields
    exact h fields (.item hitem hfields)
  · intro h fields hfields
    cases hfields with
    | item hitem hinside => exact h _ hitem fields hinside

theorem everywhere_obj_iff {fields : List (String × Json)} :
    (obj fields).Everywhere p ↔ p fields ∧ ∀ field ∈ fields, field.2.Everywhere p := by
  constructor
  · intro h
    refine ⟨h fields .root, ?_⟩
    intro field hfield inner hinner
    exact h inner (.field hfield hinner)
  · intro h inner hinner
    cases hinner with
    | root => exact h.1
    | field hfield hinside => exact h.2 _ hfield inner hinside

@[simp] theorem everywhere_str (text : String) : (str text).Everywhere p := by
  intro fields h
  cases h

theorem Everywhere.mono {q : List (String × Json) → Prop} {value : Json} (h : value.Everywhere p)
    (hq : ∀ fields, p fields → q fields) : value.Everywhere q :=
  fun fields hfields => hq fields (h fields hfields)

end Everywhere

/-- No key is repeated, so that the fields are a map. -/
def KeysDistinct (fields : List (String × Json)) : Prop := (fields.map Prod.fst).Nodup

/-- The keys strictly ascend by their bytes. -/
def KeysAscend (fields : List (String × Json)) : Prop :=
  fields.Pairwise fun left right => Bytes.ofText left.1 < Bytes.ofText right.1

theorem keysAscend_iff {fields : List (String × Json)} : KeysAscend fields ↔ Ascending fields := by
  simp only [KeysAscend, Ascending, Bytes.ofText_lt_iff]

theorem everywhere_ascending_of_ordered {value : Json} (h : value.Ordered) : value.Everywhere Ascending := by
  induction value using induction with
  | null | bool | int | double | str =>
    intro fields hfields
    cases hfields
  | arr items ih =>
    rw [Ordered, orderedItems_iff] at h
    exact everywhere_arr_iff.2 fun item hitem => ih item hitem (h item hitem)
  | obj fields ih =>
    rw [Ordered, orderedFields_iff] at h
    exact everywhere_obj_iff.2 ⟨h.1, fun field hfield => ih field hfield (h.2 field hfield)⟩

theorem keysAscend_sorted (value : Json) : value.sorted.Everywhere KeysAscend :=
  (everywhere_ascending_of_ordered (ordered_sorted value)).mono fun _ => keysAscend_iff.2

/-! ### The same up to the order of fields -/

/-- The values differ only in where the fields of their objects stand, at any depth. Fields are moved inside an object that repeats no key; the items of an array stay in their places. -/
inductive Reordered : Json → Json → Prop where
  | refl (value : Json) : Reordered value value
  | trans {value middle other : Json} (h : Reordered value middle) (hother : Reordered middle other) :
    Reordered value other
  | item {value other : Json} (before after : List Json) (h : Reordered value other) :
    Reordered (arr (before ++ value :: after)) (arr (before ++ other :: after))
  | field {value other : Json} (before after : List (String × Json)) (key : String) (h : Reordered value other) :
    Reordered (obj (before ++ (key, value) :: after)) (obj (before ++ (key, other) :: after))
  | moved {fields others : List (String × Json)} (hkeys : KeysDistinct fields) (h : fields.Perm others) :
    Reordered (obj fields) (obj others)

namespace Reordered

theorem items {items others : List Json} (h : List.Forall₂ Reordered items others) (before : List Json) :
    Reordered (arr (before ++ items)) (arr (before ++ others)) := by
  induction h generalizing before with
  | nil => exact .refl _
  | @cons item other items others hitem _ ih =>
    have hrest := ih (before ++ [other])
    rw [List.append_assoc, List.append_assoc] at hrest
    exact (Reordered.item before items hitem).trans hrest

/-- The fields have one key, and their values are the same up to the order of fields. -/
def Field (left right : String × Json) : Prop := left.1 = right.1 ∧ Reordered left.2 right.2

theorem fields {fields others : List (String × Json)} (h : List.Forall₂ Field fields others)
    (before : List (String × Json)) : Reordered (obj (before ++ fields)) (obj (before ++ others)) := by
  induction h generalizing before with
  | nil => exact .refl _
  | @cons left right fields others hfield _ ih =>
    obtain ⟨key, value⟩ := left
    obtain ⟨_, other⟩ := right
    obtain ⟨rfl, hvalue⟩ := hfield
    have hrest := ih (before ++ [(key, other)])
    rw [List.append_assoc, List.append_assoc] at hrest
    exact (Reordered.field before fields key hvalue).trans hrest

/-- Sorting moves the fields of a value without repeated keys and does nothing else. -/
theorem of_sorted {value : Json} (h : value.Everywhere KeysDistinct) : Reordered value value.sorted := by
  induction value using induction with
  | null | bool | int | double | str => exact .refl _
  | arr items ih =>
    rw [everywhere_arr_iff] at h
    rw [sorted, sortedItems_eq_map]
    apply Reordered.items _ []
    rw [List.forall₂_map_right_iff, List.forall₂_same]
    exact fun item hitem => ih item hitem (h item hitem)
  | obj fields ih =>
    obtain ⟨hkeys, hvalues⟩ := everywhere_obj_iff.1 h
    rw [sorted, sortedFields_eq_map]
    have hinside : Reordered (obj fields) (obj (fields.map fun field => (field.1, field.2.sorted))) := by
      apply Reordered.fields _ []
      rw [List.forall₂_map_right_iff, List.forall₂_same]
      exact fun field hfield => ⟨rfl, ih field hfield (hvalues field hfield)⟩
    have hmapped : KeysDistinct (fields.map fun field => (field.1, field.2.sorted)) := by
      rwa [KeysDistinct, List.map_map]
    exact hinside.trans (.moved hmapped (sortFields_perm hmapped).symm)

/-- Once sorted, values that were the same up to the order of fields are the same. -/
theorem sorted_eq {value other : Json} (h : Reordered value other) : value.sorted = other.sorted := by
  induction h with
  | refl => rfl
  | trans _ _ hleft hright => exact hleft.trans hright
  | item before after _ ih => simp only [sorted, sortedItems_eq_map, List.map_append, List.map_cons, ih]
  | field before after key _ ih => simp only [sorted, sortedFields_eq_map, List.map_append, List.map_cons, ih]
  | moved hkeys hperm =>
    rw [sorted, sorted, sortedFields_eq_map, sortedFields_eq_map]
    refine congrArg obj (sortFields_eq_of_perm ?_ (hperm.map _))
    rwa [List.map_map]

end Reordered

end ChainClient.Json
