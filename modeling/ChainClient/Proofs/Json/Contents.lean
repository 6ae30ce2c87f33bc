import ChainClient.Proofs.Json.Plain

/-!
# What is read from a document

A document is read as a free-form value item by item and member by member. So the fields of such a value are in order, and whatever text stands in it stands in the document.
-/

namespace ChainClient.Json

/-- Induction over documents, with the items of an array and the members of an object as parts. -/
@[elab_as_elim]
theorem Document.induction {motive : Document → Prop} (broken : motive broken) (unreadable : motive unreadable)
    (null : motive null) (bool : ∀ b, motive (bool b)) (int : ∀ n, motive (int n)) (double : ∀ x, motive (double x))
    (str : ∀ s, motive (str s)) (arr : ∀ items, (∀ item ∈ items, motive item) → motive (arr items))
    (obj : ∀ members, (∀ member ∈ members, motive member.2) → motive (obj members)) (document : Document) :
    motive document :=
  @Document.rec motive (fun items => ∀ item ∈ items, motive item) (fun members => ∀ member ∈ members, motive member.2)
    (fun member => motive member.2) broken unreadable null bool int double str arr obj
    (by simp) (fun _ _ hitem hitems => List.forall_mem_cons.2 ⟨hitem, hitems⟩)
    (by simp) (fun _ _ hmember hmembers => List.forall_mem_cons.2 ⟨hmember, hmembers⟩)
    (fun _ _ hvalue => hvalue) document

/-! ### Values read part by part -/

theorem exists_of_mem_valueItems? {depth : Nat} {items : List Document} {values : List Json}
    (h : valueItems? depth items = some values) {value : Json} (hvalue : value ∈ values) :
    ∃ item ∈ items, item.value? depth = some value := by
  induction items generalizing values with
  | nil =>
    cases h
    exact absurd hvalue List.not_mem_nil
  | cons item items ih =>
    rw [valueItems?] at h
    obtain ⟨first, hfirst, hrest⟩ := Option.bind_eq_some_iff.1 h
    obtain ⟨others, hothers, hcons⟩ := Option.bind_eq_some_iff.1 hrest
    cases hcons
    rcases List.mem_cons.1 hvalue with rfl | hmem
    · exact ⟨item, List.mem_cons_self, hfirst⟩
    · obtain ⟨source, hsource, hread⟩ := ih hothers hmem
      exact ⟨source, List.mem_cons_of_mem _ hsource, hread⟩

theorem exists_of_mem_valueMembers? {depth : Nat} {members : List (Option String × Document)}
    {fields : List (String × Json)} (h : valueMembers? depth members = some fields) {field : String × Json}
    (hfield : field ∈ fields) : ∃ member ∈ members, member.2.value? depth = some field.2 := by
  induction members generalizing fields with
  | nil =>
    cases h
    exact absurd hfield List.not_mem_nil
  | cons member members ih =>
    rw [valueMembers?] at h
    obtain ⟨key, hkey, hfields⟩ := Option.bind_eq_some_iff.1 h
    obtain ⟨value, hvalue, hrest⟩ := Option.bind_eq_some_iff.1 hfields
    obtain ⟨others, hothers, hcons⟩ := Option.bind_eq_some_iff.1 hrest
    cases hcons
    rcases List.mem_cons.1 hfield with rfl | hmem
    · exact ⟨member, List.mem_cons_self, hvalue⟩
    · obtain ⟨source, hsource, hread⟩ := ih hothers hmem
      exact ⟨source, List.mem_cons_of_mem _ hsource, hread⟩

theorem value?_arr_eq_some {depth : Nat} {items : List Document} {value : Json}
    (h : (Document.arr items).value? depth = some value) :
    ∃ values, value = .arr values ∧ ∀ v ∈ values, ∃ item ∈ items, ∃ inner, item.value? inner = some v := by
  cases depth with
  | zero => exact absurd h (by simp [Document.value?])
  | succ depth =>
    obtain ⟨values, hvalues, rfl⟩ := Option.map_eq_some_iff.1 h
    refine ⟨values, rfl, fun v hv => ?_⟩
    obtain ⟨item, hitem, hread⟩ := exists_of_mem_valueItems? hvalues hv
    exact ⟨item, hitem, depth, hread⟩

theorem value?_obj_eq_some {depth : Nat} {members : List (Option String × Document)} {value : Json}
    (h : (Document.obj members).value? depth = some value) :
    ∃ fields, value = .obj fields ∧ Ascending fields ∧
      ∀ field ∈ fields, ∃ member ∈ members, ∃ inner, member.2.value? inner = some field.2 := by
  cases depth with
  | zero => exact absurd h (by simp [Document.value?])
  | succ depth =>
    obtain ⟨fields, hfields, rfl⟩ := Option.map_eq_some_iff.1 h
    refine ⟨sortFields fields, rfl, ascending_sortFields fields, fun field hfield => ?_⟩
    obtain ⟨member, hmember, hread⟩ := exists_of_mem_valueMembers? hfields (mem_of_mem_sortFields hfield)
    exact ⟨member, hmember, depth, hread⟩

theorem ordered_of_value? {depth : Nat} {document : Document} {value : Json} (h : document.value? depth = some value) :
    value.Ordered := by
  induction document using Document.induction generalizing depth value with
  | broken | unreadable => exact absurd h (by simp [Document.value?])
  | null | bool | int | double | str =>
    cases h
    trivial
  | arr items ih =>
    obtain ⟨values, rfl, hvalues⟩ := value?_arr_eq_some h
    rw [Ordered, orderedItems_iff]
    intro v hv
    obtain ⟨item, hitem, inner, hread⟩ := hvalues v hv
    exact ih item hitem hread
  | obj members ih =>
    obtain ⟨fields, rfl, hascending, hfields⟩ := value?_obj_eq_some h
    rw [Ordered, orderedFields_iff]
    refine ⟨hascending, fun field hfield => ?_⟩
    obtain ⟨member, hmember, inner, hread⟩ := hfields field hfield
    exact ih member hmember hread

/-! ### The texts in a document -/

/-- A text stands in a document as a string. -/
inductive Document.Holds (text : String) : Document → Prop where
  | str : Holds text (.str text)
  | item {items : List Document} {item : Document} (hitem : item ∈ items) (h : Holds text item) : Holds text (.arr items)
  | member {members : List (Option String × Document)} {member : Option String × Document} (hmember : member ∈ members)
      (h : Holds text member.2) : Holds text (.obj members)

/-- Whatever text stands in the one document stands in the other. -/
def Document.Within (document root : Document) : Prop := ∀ text, document.Holds text → root.Holds text

namespace Document

variable {document root : Document}

theorem Within.refl (document : Document) : document.Within document := fun _ h => h

theorem Within.trans {middle : Document} (h : document.Within middle) (hroot : middle.Within root) :
    document.Within root :=
  fun text htext => hroot text (h text htext)

theorem Within.item {items : List Document} (h : (arr items).Within root) {item : Document} (hitem : item ∈ items) :
    item.Within root :=
  fun text htext => h text (.item hitem htext)

theorem Within.member {members : List (Option String × Document)} (h : (obj members).Within root)
    {member : Option String × Document} (hmember : member ∈ members) : member.2.Within root :=
  fun text htext => h text (.member hmember htext)

theorem Within.holds {text : String} (h : (str text).Within root) : root.Holds text := h text .str

/-- Read as a free-form value and taken as a document again, a document holds no text that it did not hold. -/
theorem within_of_value? {depth : Nat} {value : Json} (h : document.value? depth = some value) :
    value.document.Within document := by
  induction document using Document.induction generalizing depth value with
  | broken | unreadable => exact absurd h (by simp [value?])
  | null | bool | int | double | str =>
    cases h
    exact .refl _
  | arr items ih =>
    obtain ⟨values, rfl, hvalues⟩ := value?_arr_eq_some h
    intro text htext
    rw [Json.document, documentItems_eq_map] at htext
    cases htext with
    | item hitem hholds =>
      obtain ⟨v, hv, rfl⟩ := List.mem_map.1 hitem
      obtain ⟨item, hitem, inner, hread⟩ := hvalues v hv
      exact .item hitem (ih item hitem hread text hholds)
  | obj members ih =>
    obtain ⟨fields, rfl, -, hfields⟩ := value?_obj_eq_some h
    intro text htext
    rw [Json.document, documentFields_eq_map] at htext
    cases htext with
    | member hmember hholds =>
      obtain ⟨field, hfield, rfl⟩ := List.mem_map.1 hmember
      obtain ⟨member, hmember, inner, hread⟩ := hfields field hfield
      exact .member hmember (ih member hmember hread text hholds)

end Document

end ChainClient.Json
