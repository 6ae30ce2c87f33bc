import Mathlib.Data.List.Induction
import Mathlib.Data.List.Sort
import Mathlib.Data.String.Basic
import ChainClient.Json.Basic

/-!
# The order of fields

What sorting does to the fields of an object and to a whole value. The fields of an object are ascending when their keys strictly ascend, and a value is ordered when the fields of all objects in it ascend. Sorting always ends in an ordered value and leaves an ordered value alone; where the keys of a list of fields are distinct it only moves the fields.
-/

namespace ChainClient.Json

/-- Induction over values, with the items of an array and the fields of an object as members. -/
@[elab_as_elim]
theorem induction {motive : Json → Prop} (null : motive null) (bool : ∀ b, motive (bool b))
    (int : ∀ n, motive (int n)) (double : ∀ x, motive (double x)) (str : ∀ s, motive (str s))
    (arr : ∀ items, (∀ item ∈ items, motive item) → motive (arr items))
    (obj : ∀ fields, (∀ field ∈ fields, motive field.2) → motive (obj fields)) (value : Json) : motive value :=
  @Json.rec motive (fun items => ∀ item ∈ items, motive item) (fun fields => ∀ field ∈ fields, motive field.2)
    (fun field => motive field.2) null bool int double str arr obj
    (by simp) (fun _ _ hitem hitems => List.forall_mem_cons.2 ⟨hitem, hitems⟩)
    (by simp) (fun _ _ hfield hfields => List.forall_mem_cons.2 ⟨hfield, hfields⟩)
    (fun _ _ hvalue => hvalue) value

theorem sortedItems_eq_map (items : List Json) : sortedItems items = items.map sorted := by
  induction items with
  | nil => rfl
  | cons item items ih => rw [sortedItems, ih, List.map_cons]

theorem sortedFields_eq_map (fields : List (String × Json)) :
    sortedFields fields = fields.map fun field => (field.1, field.2.sorted) := by
  induction fields with
  | nil => rfl
  | cons field fields ih => rw [sortedFields, ih, List.map_cons]

/-! ### Ascending fields -/

/-- The keys strictly ascend. -/
def Ascending (fields : List (String × Json)) : Prop := fields.Pairwise fun left right => left.1 < right.1

theorem Ascending.nodup {fields : List (String × Json)} (h : Ascending fields) : (fields.map Prod.fst).Nodup :=
  (List.pairwise_map.2 h).imp fun hlt => hlt.ne

/-- Two arrangements of the same fields in ascending order are one. -/
theorem Ascending.eq_of_perm {left right : List (String × Json)} (hleft : Ascending left) (hright : Ascending right)
    (h : left.Perm right) : left = right :=
  h.eq_of_pairwise (fun _ _ _ _ hab hba => absurd hba hab.asymm) hleft hright

theorem Ascending.map_values {fields : List (String × Json)} (h : Ascending fields) (f : Json → Json) :
    Ascending (fields.map fun field => (field.1, f field.2)) :=
  List.pairwise_map.2 h

theorem mem_of_mem_putField {key : String} {value : Json} {field : String × Json} {fields : List (String × Json)}
    (h : field ∈ putField key value fields) : field = (key, value) ∨ field ∈ fields := by
  induction fields with
  | nil => simpa [putField] using h
  | cons head tail ih =>
    obtain ⟨k, v⟩ := head
    rw [putField] at h
    split at h
    · simpa using h
    · split at h
      · rcases List.mem_cons.1 h with hnew | htail
        · exact .inl hnew
        · exact .inr (List.mem_cons_of_mem _ htail)
      · rcases List.mem_cons.1 h with hhead | hput
        · exact .inr (hhead ▸ List.mem_cons_self)
        · exact (ih hput).imp_right (List.mem_cons_of_mem _)

theorem ascending_putField (key : String) (value : Json) {fields : List (String × Json)} (h : Ascending fields) :
    Ascending (putField key value fields) := by
  induction fields with
  | nil => exact List.pairwise_singleton _ _
  | cons head tail ih =>
    obtain ⟨k, v⟩ := head
    obtain ⟨hhead, htail⟩ := List.pairwise_cons.1 h
    rw [putField]
    split
    · rename_i hlt
      refine List.pairwise_cons.2 ⟨fun field hfield => ?_, h⟩
      rcases List.mem_cons.1 hfield with rfl | hmem
      · exact hlt
      · exact hlt.trans (hhead field hmem)
    · rename_i hnlt
      split
      · rename_i heq
        subst heq
        exact List.pairwise_cons.2 ⟨hhead, htail⟩
      · rename_i hne
        refine List.pairwise_cons.2 ⟨fun field hfield => ?_, ih htail⟩
        rcases mem_of_mem_putField hfield with rfl | hmem
        · exact lt_of_le_of_ne (not_lt.1 hnlt) (Ne.symm hne)
        · exact hhead field hmem

theorem putField_perm {key : String} {value : Json} {fields : List (String × Json)}
    (h : key ∉ fields.map Prod.fst) : (putField key value fields).Perm ((key, value) :: fields) := by
  induction fields with
  | nil => exact .refl _
  | cons head tail ih =>
    obtain ⟨k, v⟩ := head
    rw [List.map_cons, List.mem_cons, not_or] at h
    rw [putField]
    split
    · exact .refl _
    · rw [if_neg h.1]
      exact ((ih h.2).cons _).trans (.swap _ _ _)

/-! ### Sorting the fields of one object -/

theorem sortFields_concat (fields : List (String × Json)) (key : String) (value : Json) :
    sortFields (fields ++ [(key, value)]) = putField key value (sortFields fields) := by
  simp [sortFields]

theorem ascending_sortFields (fields : List (String × Json)) : Ascending (sortFields fields) := by
  induction fields using List.reverseRecOn with
  | nil => exact List.Pairwise.nil
  | append_singleton fields field ih =>
    rw [sortFields_concat]
    exact ascending_putField _ _ ih

theorem mem_of_mem_sortFields {field : String × Json} {fields : List (String × Json)}
    (h : field ∈ sortFields fields) : field ∈ fields := by
  induction fields using List.reverseRecOn with
  | nil => exact h
  | append_singleton fields last ih =>
    rw [sortFields_concat] at h
    rcases mem_of_mem_putField h with rfl | hmem
    · exact List.mem_append_right _ (List.mem_singleton_self _)
    · exact List.mem_append_left _ (ih hmem)

/-- Fields of distinct keys are only moved. -/
theorem sortFields_perm {fields : List (String × Json)} (h : (fields.map Prod.fst).Nodup) :
    (sortFields fields).Perm fields := by
  induction fields using List.reverseRecOn with
  | nil => exact .refl _
  | append_singleton fields field ih =>
    rw [List.map_append, List.nodup_append] at h
    have hperm := ih h.1
    have hnew : field.1 ∉ (sortFields fields).map Prod.fst := by
      intro hmem
      exact h.2.2 field.1 ((hperm.map _).mem_iff.1 hmem) field.1 (by simp) rfl
    rw [sortFields_concat]
    exact (putField_perm hnew).trans ((hperm.cons _).trans (List.perm_append_singleton _ _).symm)

theorem sortFields_eq_self {fields : List (String × Json)} (h : Ascending fields) : sortFields fields = fields :=
  (ascending_sortFields fields).eq_of_perm h (sortFields_perm h.nodup)

/-- How fields of distinct keys stand in a list makes no difference once they are sorted. -/
theorem sortFields_eq_of_perm {fields others : List (String × Json)} (hkeys : (fields.map Prod.fst).Nodup)
    (h : fields.Perm others) : sortFields fields = sortFields others := by
  have hother : (others.map Prod.fst).Nodup := (h.map Prod.fst).nodup_iff.1 hkeys
  have hperm := (sortFields_perm hkeys).trans (h.trans (sortFields_perm hother).symm)
  exact (ascending_sortFields fields).eq_of_perm (ascending_sortFields others) hperm

theorem sorted_obj_of_ascending {fields : List (String × Json)} (h : (fields.map Prod.fst).Pairwise (· < ·)) :
    (obj fields).sorted = obj (fields.map fun field => (field.1, field.2.sorted)) := by
  rw [sorted, sortedFields_eq_map, sortFields_eq_self (Ascending.map_values (List.pairwise_map.1 h) sorted)]

/-! ### Ordered values -/

mutual

/-- The fields of every object ascend. -/
def Ordered : Json → Prop
  | arr items => OrderedItems items
  | obj fields => Ascending fields ∧ OrderedFields fields
  | _ => True

def OrderedItems : List Json → Prop
  | [] => True
  | item :: rest => item.Ordered ∧ OrderedItems rest

def OrderedFields : List (String × Json) → Prop
  | [] => True
  | (_, value) :: rest => value.Ordered ∧ OrderedFields rest

end

theorem orderedItems_iff {items : List Json} : OrderedItems items ↔ ∀ item ∈ items, item.Ordered := by
  induction items with
  | nil => simp [OrderedItems]
  | cons item items ih => simp [OrderedItems, ih]

theorem orderedFields_iff {fields : List (String × Json)} : OrderedFields fields ↔ ∀ field ∈ fields, field.2.Ordered := by
  induction fields with
  | nil => simp [OrderedFields]
  | cons field fields ih => simp [OrderedFields, ih]

theorem ordered_sorted (value : Json) : value.sorted.Ordered := by
  induction value using induction with
  | null | bool | int | double | str => simp [sorted, Ordered]
  | arr items ih =>
    rw [sorted, Ordered, sortedItems_eq_map, orderedItems_iff]
    simpa using ih
  | obj fields ih =>
    rw [sorted, Ordered, sortedFields_eq_map, orderedFields_iff]
    refine ⟨ascending_sortFields _, fun field hfield => ?_⟩
    obtain ⟨source, hsource, rfl⟩ := List.mem_map.1 (mem_of_mem_sortFields hfield)
    exact ih source hsource

theorem sorted_of_ordered {value : Json} (h : value.Ordered) : value.sorted = value := by
  induction value using induction with
  | null | bool | int | double | str => simp [sorted]
  | arr items ih =>
    rw [Ordered, orderedItems_iff] at h
    rw [sorted, sortedItems_eq_map, List.map_congr_left fun item hitem => ih item hitem (h item hitem), List.map_id']
  | obj fields ih =>
    rw [Ordered, orderedFields_iff] at h
    have hvalues : sortedFields fields = fields := by
      rw [sortedFields_eq_map]
      conv_rhs => rw [← List.map_id' fields]
      exact List.map_congr_left fun field hfield => by rw [ih field hfield (h.2 field hfield)]
    rw [sorted, hvalues, sortFields_eq_self h.1]

@[simp] theorem sorted_sorted (value : Json) : value.sorted.sorted = value.sorted :=
  sorted_of_ordered (ordered_sorted value)

end ChainClient.Json
