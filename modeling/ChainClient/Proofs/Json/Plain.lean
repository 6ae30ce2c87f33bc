import Mathlib.Algebra.Group.Int.Defs
import ChainClient.Json.Document
import ChainClient.Proofs.Json.Order

/-!
# Values that are read back exactly

A value is plain when it holds no doubles, its integers are those of 64 bits, signed or unsigned, and no more than so many arrays and objects are open inside each other. The text of a plain value is read back exactly; of other values a reader may make something else or nothing.
-/

namespace ChainClient.Json

mutual

/-- No doubles, no integers beyond 64 bits, and containers nested at most so deep. -/
def Plain (depth : Nat) : Json → Prop
  | int n => -(2 ^ 63) ≤ n ∧ n < 2 ^ 64
  | double _ => False
  | arr items => 0 < depth ∧ PlainItems (depth - 1) items
  | obj fields => 0 < depth ∧ PlainFields (depth - 1) fields
  | _ => True

def PlainItems (depth : Nat) : List Json → Prop
  | [] => True
  | item :: rest => item.Plain depth ∧ PlainItems depth rest

def PlainFields (depth : Nat) : List (String × Json) → Prop
  | [] => True
  | (_, value) :: rest => value.Plain depth ∧ PlainFields depth rest

end

theorem plainItems_iff {depth : Nat} {items : List Json} :
    PlainItems depth items ↔ ∀ item ∈ items, item.Plain depth := by
  induction items with
  | nil => simp [PlainItems]
  | cons item items ih => simp [PlainItems, ih]

theorem plainFields_iff {depth : Nat} {fields : List (String × Json)} :
    PlainFields depth fields ↔ ∀ field ∈ fields, field.2.Plain depth := by
  induction fields with
  | nil => simp [PlainFields]
  | cons field fields ih => simp [PlainFields, ih]

theorem plain_arr_iff {depth : Nat} {items : List Json} :
    (arr items).Plain depth ↔ 0 < depth ∧ ∀ item ∈ items, item.Plain (depth - 1) := by
  rw [Plain, plainItems_iff]

theorem plain_obj_iff {depth : Nat} {fields : List (String × Json)} :
    (obj fields).Plain depth ↔ 0 < depth ∧ ∀ field ∈ fields, field.2.Plain (depth - 1) := by
  rw [Plain, plainFields_iff]

@[simp] theorem plain_str (depth : Nat) (text : String) : (str text).Plain depth := trivial

@[simp] theorem plain_null (depth : Nat) : null.Plain depth := trivial

@[simp] theorem plain_bool (depth : Nat) (value : Bool) : (bool value).Plain depth := trivial

theorem Plain.mono {depth deeper : Nat} {value : Json} (h : value.Plain depth) (hle : depth ≤ deeper) :
    value.Plain deeper := by
  induction value using induction generalizing depth deeper with
  | null | bool | int | double | str => exact h
  | arr items ih =>
    obtain ⟨hpos, hitems⟩ := plain_arr_iff.1 h
    exact plain_arr_iff.2 ⟨by omega, fun item hitem => ih item hitem (hitems item hitem) (by omega)⟩
  | obj fields ih =>
    obtain ⟨hpos, hfields⟩ := plain_obj_iff.1 h
    exact plain_obj_iff.2 ⟨by omega, fun field hfield => ih field hfield (hfields field hfield) (by omega)⟩

theorem Plain.sorted {depth : Nat} {value : Json} (h : value.Plain depth) : value.sorted.Plain depth := by
  induction value using induction generalizing depth with
  | null | bool | int | double | str => exact h
  | arr items ih =>
    obtain ⟨hpos, hitems⟩ := plain_arr_iff.1 h
    rw [Json.sorted, sortedItems_eq_map, plain_arr_iff]
    refine ⟨hpos, fun item hitem => ?_⟩
    obtain ⟨source, hsource, rfl⟩ := List.mem_map.1 hitem
    exact ih source hsource (hitems source hsource)
  | obj fields ih =>
    obtain ⟨hpos, hfields⟩ := plain_obj_iff.1 h
    rw [Json.sorted, sortedFields_eq_map, plain_obj_iff]
    refine ⟨hpos, fun field hfield => ?_⟩
    obtain ⟨source, hsource, rfl⟩ := List.mem_map.1 (mem_of_mem_sortFields hfield)
    exact ih source hsource (hfields source hsource)

/-! ### Plain values as documents -/

theorem documentItems_eq_map (items : List Json) : documentItems items = items.map document := by
  induction items with
  | nil => rfl
  | cons item items ih => rw [documentItems, ih, List.map_cons]

theorem documentFields_eq_map (fields : List (String × Json)) :
    documentFields fields = fields.map fun field => (some field.1, field.2.document) := by
  induction fields with
  | nil => rfl
  | cons field fields ih => rw [documentFields, ih, List.map_cons]

private theorem valueItems?_documentItems {depth : Nat} {items : List Json}
    (h : ∀ item ∈ items, item.document.value? depth = some item.sorted) :
    valueItems? depth (documentItems items) = some (sortedItems items) := by
  induction items with
  | nil => rfl
  | cons item items ih =>
    obtain ⟨hitem, hitems⟩ := List.forall_mem_cons.1 h
    rw [documentItems, valueItems?, hitem, ih hitems]
    rfl

private theorem valueMembers?_documentFields {depth : Nat} {fields : List (String × Json)}
    (h : ∀ field ∈ fields, field.2.document.value? depth = some field.2.sorted) :
    valueMembers? depth (documentFields fields) = some (sortedFields fields) := by
  induction fields with
  | nil => rfl
  | cons field fields ih =>
    obtain ⟨hfield, hfields⟩ := List.forall_mem_cons.1 h
    rw [documentFields, valueMembers?, hfield, ih hfields]
    rfl

/-- A plain value that is read as free-form JSON comes back with its fields in order. -/
theorem value?_document {depth : Nat} {value : Json} (h : value.Plain depth) :
    value.document.value? depth = some value.sorted := by
  induction value using induction generalizing depth with
  | null | bool | int | str => rfl
  | double => exact h.elim
  | arr items ih =>
    obtain ⟨hpos, hitems⟩ := plain_arr_iff.1 h
    obtain ⟨inner, rfl⟩ := Nat.exists_eq_succ_of_ne_zero hpos.ne'
    have hvalues := valueItems?_documentItems fun item hitem => ih item hitem (hitems item hitem)
    rw [document, Document.value?]
    exact congrArg (Option.map Json.arr) hvalues
  | obj fields ih =>
    obtain ⟨hpos, hfields⟩ := plain_obj_iff.1 h
    obtain ⟨inner, rfl⟩ := Nat.exists_eq_succ_of_ne_zero hpos.ne'
    have hvalues := valueMembers?_documentFields fun field hfield => ih field hfield (hfields field hfield)
    rw [document, Document.value?]
    exact congrArg (Option.map fun fields => obj (sortFields fields)) hvalues

end ChainClient.Json
