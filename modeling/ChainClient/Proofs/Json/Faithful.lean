import ChainClient.Json.Wire
import ChainClient.Proofs.Json.Assembly
import ChainClient.Proofs.Outcome

/-!
# Faithful wire formats

A value is faithful in its wire format when it is written as a plain value and read back as itself, both from what was written and from the same with the fields of every object in ascending order, which is how it arrives once it has been free-form JSON. Faithfulness of a record follows from that of its fields: their order in the text does not matter, and a field that is not written must be the default that its absence stands for.

The `levels` of a value are the arrays and objects that may be open inside each other when it is written.
-/

namespace ChainClient

open Json

/-- How the fields of a written value stand in the text that is read. -/
inductive Arrangement where
  | declared
  | ascending

namespace Arrangement

def apply : Arrangement → Json → Json
  | declared, value => value
  | ascending, value => value.sorted

variable (a : Arrangement)

@[simp] theorem apply_null : a.apply .null = .null := by cases a <;> rfl

@[simp] theorem apply_bool (value : Bool) : a.apply (.bool value) = .bool value := by cases a <;> rfl

@[simp] theorem apply_int (value : Int) : a.apply (.int value) = .int value := by cases a <;> rfl

@[simp] theorem apply_str (text : String) : a.apply (.str text) = .str text := by cases a <;> rfl

@[simp] theorem apply_arr (items : List Json) : a.apply (.arr items) = .arr (items.map a.apply) := by
  cases a with
  | declared => exact congrArg Json.arr (List.map_id items).symm
  | ascending => exact congrArg Json.arr (sortedItems_eq_map items)

theorem apply_obj {fields : List (String × Json)} (h : (fields.map Prod.fst).Nodup) :
    ∃ members, a.apply (.obj fields) = .obj members ∧
      members.Perm (fields.map fun field => (field.1, a.apply field.2)) := by
  cases a with
  | declared => exact ⟨fields, rfl, .of_eq (List.map_id fields).symm⟩
  | ascending =>
    refine ⟨sortFields (sortedFields fields), rfl, ?_⟩
    rw [sortedFields_eq_map]
    refine sortFields_perm ?_
    rwa [List.map_map]

end Arrangement

namespace Wire

variable {α β γ : Type}

structure Faithful (wire : Wire α) (levels : Nat) (value : α) : Prop where
  plain : (wire.write value).Plain levels
  reads (a : Arrangement) {depth : Nat} (h : levels ≤ depth) :
    wire.read depth (a.apply (wire.write value)).document = .ok value

theorem Faithful.mono {wire : Wire α} {levels more : Nat} {value : α} (h : wire.Faithful levels value)
    (hle : levels ≤ more) : wire.Faithful more value :=
  ⟨h.plain.mono hle, fun a _ hdepth => h.reads a (hle.trans hdepth)⟩

/-- The bytes of a faithful value are read as this value. -/
theorem Faithful.readBytes {wire : Wire α} {value : α} (h : wire.Faithful maxDepth value) :
    wire.readBytes (wire.bytes value) = .ok value := by
  have hread := h.reads .declared (Nat.le_refl _)
  rw [Wire.readBytes, Wire.bytes, ofBytes_bytes h.plain]
  simp only [Arrangement.apply] at hread
  simp [hread, bind, Except.bind, pure, Except.pure]

/-- What a faithful value becomes in free form is read as this value. -/
theorem Faithful.readJson {wire : Wire α} {value : α} (h : wire.Faithful maxDepth value) :
    wire.readJson (wire.json value) = .ok value :=
  h.reads .ascending (Nat.le_refl _)

/-! ### Scalars -/

@[simp] theorem faithful_string (levels : Nat) (text : String) : string.Faithful levels text :=
  ⟨trivial, fun a _ _ => by simp [string, document]⟩

@[simp] theorem faithful_bool (levels : Nat) (value : Bool) : bool.Faithful levels value :=
  ⟨trivial, fun a _ _ => by simp [bool, document]⟩

theorem faithful_texted {write : α → String} {read? : String → Option α} {value : α}
    (h : read? (write value) = some value) (levels : Nat) : (texted write read?).Faithful levels value :=
  ⟨trivial, fun a _ _ => by simp [texted, document, h]⟩

theorem faithful_parsed {write : α → String} {parse : String → Except ValueError α} {value : α}
    (h : parse (write value) = .ok value) (levels : Nat) : (parsed write parse).Faithful levels value :=
  ⟨trivial, fun a _ _ => by simp [parsed, document, h]⟩

@[simp] theorem faithful_quotedUInt64 (levels : Nat) (n : UInt64) : quotedUInt64.Faithful levels n :=
  faithful_texted (Text.readUInt64?_digits n) levels

@[simp] theorem faithful_quotedInt64 (levels : Nat) (n : Int64) : quotedInt64.Faithful levels n :=
  faithful_texted (Text.readInt64?_integer n) levels

theorem faithful_bounded {toInt : α → Int} {ofInt : Int → α} {low high : Int} {value : α}
    (hback : ofInt (toInt value) = value) (hlow : low ≤ toInt value) (hhigh : toInt value ≤ high)
    (hleast : -(2 ^ 63) ≤ low) (hgreatest : high < 2 ^ 64) (levels : Nat) :
    (Wire.mk (fun n => .int (toInt n)) fun _ document => (readInt low high document).map ofInt).Faithful levels value := by
  refine ⟨⟨hleast.trans hlow, lt_of_le_of_lt hhigh hgreatest⟩, fun a depth _ => ?_⟩
  have hread : readInt low high (.int (toInt value)) = .ok (toInt value) := if_pos ⟨hlow, hhigh⟩
  simp only [Arrangement.apply_int, document, hread, Except.map, hback]

@[simp] theorem faithful_uint8 (levels : Nat) (n : UInt8) : uint8.Faithful levels n := by
  have hlt := n.toNat_lt
  exact faithful_bounded (by simp) (by omega) (by omega) (by decide) (by decide) levels

@[simp] theorem faithful_uint16 (levels : Nat) (n : UInt16) : uint16.Faithful levels n := by
  have hlt := n.toNat_lt
  exact faithful_bounded (by simp) (by omega) (by omega) (by decide) (by decide) levels

@[simp] theorem faithful_uint32 (levels : Nat) (n : UInt32) : uint32.Faithful levels n := by
  have hlt := n.toNat_lt
  exact faithful_bounded (by simp) (by omega) (by omega) (by decide) (by decide) levels

@[simp] theorem faithful_uint64 (levels : Nat) (n : UInt64) : uint64.Faithful levels n := by
  have hlt := n.toNat_lt
  exact faithful_bounded (by simp) (by omega) (by omega) (by decide) (by decide) levels

@[simp] theorem faithful_int32 (levels : Nat) (n : Int32) : int32.Faithful levels n := by
  have hhigh := n.toInt_lt
  exact faithful_bounded (by simp) n.le_toInt (by omega) (by decide) (by decide) levels

@[simp] theorem faithful_int64 (levels : Nat) (n : Int64) : int64.Faithful levels n := by
  have hhigh := n.toInt_lt
  exact faithful_bounded (by simp) n.le_toInt (by omega) (by decide) (by decide) levels

/-! ### Free-form values, optional values and lists -/

/-- Free-form values that hold no doubles have their fields in order already, so they come back as they were. -/
theorem faithful_freeForm {levels : Nat} {value : Json} (hplain : value.Plain levels) (hordered : value.Ordered) :
    freeForm.Faithful levels value := by
  refine ⟨hplain, fun a depth hdepth => ?_⟩
  have happly : a.apply value = value := by
    cases a with
    | declared => rfl
    | ascending => exact sorted_of_ordered hordered
  have hvalue := value?_document (hplain.mono hdepth)
  rw [sorted_of_ordered hordered] at hvalue
  simp [freeForm, happly, hvalue]

theorem document_apply_eq_null {a : Arrangement} {value : Json} (h : (a.apply value).document = .null) :
    value = .null := by
  cases a <;> cases value <;> simp_all [Arrangement.apply, sorted, document]

theorem read_option {wire : Wire α} {depth : Nat} {document : Document} {value : α}
    (h : wire.read depth document = .ok value) (hnull : document ≠ .null) :
    (option wire).read depth document = .ok (some value) := by
  cases document with
  | null => exact absurd rfl hnull
  | _ =>
    simp only [option]
    rw [h]
    rfl

/-- An optional value, of a type of which no value is written as `null` itself. -/
theorem faithful_option {wire : Wire α} {levels : Nat} (h : ∀ v, wire.Faithful levels v)
    (hnull : ∀ v, wire.write v ≠ .null) (value? : Option α) : (option wire).Faithful levels value? := by
  cases value? with
  | none => exact ⟨trivial, fun a _ _ => by simp [option, document]⟩
  | some value =>
    refine ⟨(h value).plain, fun a depth hdepth => ?_⟩
    exact read_option ((h value).reads a hdepth) fun heq => hnull value (document_apply_eq_null heq)

@[simp] theorem faithful_list {wire : Wire α} {levels : Nat} {values : List α} (h : ∀ v ∈ values, wire.Faithful levels v) :
    (list wire).Faithful (levels + 1) values := by
  constructor
  · simp only [list, plain_arr_iff]
    refine ⟨levels.succ_pos, fun item hitem => ?_⟩
    obtain ⟨v, hv, rfl⟩ := List.mem_map.1 hitem
    exact (h v hv).plain
  · intro a depth hdepth
    obtain ⟨inner, rfl⟩ := Nat.exists_eq_add_of_le' (Nat.le_trans (Nat.le_add_left 1 levels) hdepth)
    simp only [list, Arrangement.apply_arr, document, documentItems_eq_map, List.map_map]
    have hitems : List.Forall₂ (fun v value => wire.read inner (a.apply (wire.write v)).document = .ok value) values values :=
      List.forall₂_same.2 fun v hv => (h v hv).reads a (Nat.le_of_succ_le_succ hdepth)
    exact mapM_eq_ok_iff.2 (List.forall₂_map_left_iff.2 hitems)

/-! ### The fields of a record -/

namespace Fields

def names : {γ : Type} → Fields γ → List String
  | _, nil => []
  | _, cons key _ _ rest => key :: rest.names

/-- Each value is faithful where it is written, and what its absence stands for where it is not. -/
def Faithful (levels : Nat) : {γ : Type} → Fields γ → γ → Prop
  | _, nil, _ => True
  | _, cons _ wire presence rest, (value, values) =>
    (if presence.writes value then wire.Faithful levels value else presence.fallback? = some value) ∧
      rest.Faithful levels values

@[simp] theorem faithful_nil (levels : Nat) (values : Unit) : nil.Faithful levels values := trivial

@[simp] theorem faithful_field {key : String} {wire : Wire α} {rest : Fields β} {levels : Nat} {value : α}
    {values : β} : (field key wire rest).Faithful levels (value, values) ↔
      wire.Faithful levels value ∧ rest.Faithful levels values :=
  Iff.rfl

@[simp] theorem faithful_optionalField {key : String} {wire : Wire α} {absent : α} {rest : Fields β} {levels : Nat}
    {value : α} {values : β} : (optionalField key wire absent rest).Faithful levels (value, values) ↔
      wire.Faithful levels value ∧ rest.Faithful levels values :=
  Iff.rfl

/-- The document under a key is read as the value of the field with this name. -/
def Reads (depth : Nat) (key : String) (document : Document) : {γ : Type} → Fields γ → γ → Prop
  | _, nil, _ => False
  | _, cons name wire _ rest, (value, values) =>
    if name = key then wire.read depth document = .ok value else rest.Reads depth key document values

/-- The slots of the keys seen so far hold their values, and the others nothing. -/
def Filled (seen : List String) : {γ : Type} → (fields : Fields γ) → fields.Slots → γ → Prop
  | _, nil, _, _ => True
  | _, cons key _ _ rest, slots, (value, values) =>
    slots.1 = (if key ∈ seen then some value else none) ∧ rest.Filled seen slots.2 values

theorem filled_empty {γ : Type} (fields : Fields γ) (values : γ) : fields.Filled [] fields.empty values := by
  induction fields with
  | nil => trivial
  | cons key wire presence rest ih => exact ⟨rfl, ih values.2⟩

theorem Filled.cons_of_notMem {γ : Type} {fields : Fields γ} {seen : List String} {slots : fields.Slots} {values : γ}
    (h : fields.Filled seen slots values) {key : String} (hkey : key ∉ fields.names) :
    fields.Filled (key :: seen) slots values := by
  induction fields with
  | nil => trivial
  | cons name wire presence rest ih =>
    rw [names, List.mem_cons, not_or] at hkey
    refine ⟨?_, ih h.2 hkey.2⟩
    rw [h.1]
    simp [Ne.symm hkey.1]

theorem put_filled {γ : Type} {fields : Fields γ} (hnames : fields.names.Nodup) {seen : List String}
    {slots : fields.Slots} {values : γ} (h : fields.Filled seen slots values) {key : String} (hkey : key ∉ seen)
    {depth : Nat} {document : Document} (hread : fields.Reads depth key document values) :
    ∃ filled, fields.put depth key document slots = .ok filled ∧ fields.Filled (key :: seen) filled values := by
  induction fields with
  | nil => exact hread.elim
  | cons name wire presence rest ih =>
    obtain ⟨value, values⟩ := values
    obtain ⟨hfresh, hrest⟩ := List.nodup_cons.1 hnames
    obtain ⟨hslot, hslots⟩ := h
    by_cases heq : name = key
    · subst heq
      rw [Reads, if_pos rfl] at hread
      rw [if_neg hkey] at hslot
      refine ⟨(some value, slots.2), ?_, ?_, hslots.cons_of_notMem hfresh⟩
      · simp [put, hslot, hread, Except.map]
      · simp
    · rw [Reads, if_neg heq] at hread
      obtain ⟨filled, hput, hfilled⟩ := ih hrest hslots hread
      refine ⟨(slots.1, filled), ?_, ?_, hfilled⟩
      · simp [put, heq, hput, Except.map]
      · simp [hslot, heq]

/-- Members with distinct keys that are read one by one fill the slots of these keys, in whatever order they come. -/
theorem putAll_filled {γ : Type} {fields : Fields γ} (hnames : fields.names.Nodup) {values : γ} {depth : Nat}
    {members : List (String × Json)} (hread : ∀ m ∈ members, fields.Reads depth m.1 m.2.document values)
    {seen : List String} (hkeys : ((members.map Prod.fst).reverse ++ seen).Nodup) {slots : fields.Slots}
    (h : fields.Filled seen slots values) :
    ∃ filled, fields.putAll depth (documentFields members) slots = .ok filled ∧
      fields.Filled ((members.map Prod.fst).reverse ++ seen) filled values := by
  induction members generalizing seen slots with
  | nil => exact ⟨slots, rfl, h⟩
  | cons m members ih =>
    obtain ⟨key, value⟩ := m
    obtain ⟨hm, hmembers⟩ := List.forall_mem_cons.1 hread
    rw [List.map_cons, List.reverse_cons, List.append_assoc, List.singleton_append] at hkeys ⊢
    have hkey : key ∉ seen := (List.nodup_cons.1 (List.nodup_append.1 hkeys).2.1).1
    obtain ⟨slots', hput, hfilled⟩ := put_filled hnames h hkey hm
    obtain ⟨filled, hputs, hall⟩ := ih hmembers hkeys hfilled
    refine ⟨filled, ?_, hall⟩
    rw [documentFields, putAll, hput]
    exact hputs

/-- Slots that are filled for all fields but those whose absence stands for their value. -/
theorem finish_filled {γ : Type} {fields : Fields γ} {seen : List String} {slots : fields.Slots} {values : γ}
    (h : fields.Filled seen slots values) {levels : Nat} (hfaithful : fields.Faithful levels values)
    (hseen : ∀ field ∈ fields.write values, field.1 ∈ seen) : fields.finish slots = .ok values := by
  induction fields with
  | nil => rfl
  | cons name wire presence rest ih =>
    obtain ⟨value, values⟩ := values
    obtain ⟨hslot, hslots⟩ := h
    obtain ⟨hvalue, hvalues⟩ := hfaithful
    rw [write] at hseen
    have hfound : slots.1.or presence.fallback? = some value := by
      rw [hslot]
      split at hvalue
      · rename_i hwrites
        have hname : name ∈ seen := hseen (name, _) (by rw [if_pos hwrites]; exact List.mem_cons_self)
        rw [if_pos hname, Option.some_or]
      · split
        · rw [Option.some_or]
        · rw [Option.none_or, hvalue]
    have hrest : rest.finish slots.2 = .ok values := ih hslots hvalues fun field hfield => by
      apply hseen
      split
      · exact List.mem_cons_of_mem _ hfield
      · exact hfield
    simp [finish, hfound, hrest, Except.map]

theorem write_names_sublist {γ : Type} (fields : Fields γ) (values : γ) :
    ((fields.write values).map Prod.fst).Sublist fields.names := by
  induction fields with
  | nil => exact List.nil_sublist _
  | cons name wire presence rest ih =>
    obtain ⟨value, values⟩ := values
    rw [write, names]
    split
    · exact (ih values).cons_cons name
    · exact (ih values).cons name

theorem plain_of_mem_write {γ : Type} {fields : Fields γ} {levels : Nat} {values : γ}
    (h : fields.Faithful levels values) {field : String × Json} (hfield : field ∈ fields.write values) :
    field.2.Plain levels := by
  induction fields with
  | nil => simp [write] at hfield
  | cons name wire presence rest ih =>
    obtain ⟨value, values⟩ := values
    obtain ⟨hvalue, hvalues⟩ := h
    rw [write] at hfield
    split at hfield
    · rename_i hwrites
      rw [if_pos hwrites] at hvalue
      rcases List.mem_cons.1 hfield with rfl | hmem
      · exact hvalue.plain
      · exact ih hvalues hmem
    · exact ih hvalues hfield

theorem reads_of_mem_write {γ : Type} {fields : Fields γ} (hnames : fields.names.Nodup) {levels : Nat} {values : γ}
    (h : fields.Faithful levels values) {field : String × Json} (hfield : field ∈ fields.write values)
    (a : Arrangement) {depth : Nat} (hdepth : levels ≤ depth) :
    fields.Reads depth field.1 (a.apply field.2).document values := by
  induction fields with
  | nil => simp [write] at hfield
  | cons name wire presence rest ih =>
    obtain ⟨value, values⟩ := values
    obtain ⟨hvalue, hvalues⟩ := h
    obtain ⟨hfresh, hrest⟩ := List.nodup_cons.1 hnames
    have hlater : field ∈ rest.write values →
        Reads depth field.1 (a.apply field.2).document (cons name wire presence rest) (value, values) := by
      intro hmem
      have hname : field.1 ∈ rest.names :=
        (rest.write_names_sublist values).subset (List.mem_map_of_mem hmem)
      rw [Reads, if_neg fun heq : name = field.1 => hfresh (heq.symm ▸ hname)]
      exact ih hrest hvalues hmem
    rw [write] at hfield
    split at hfield
    · rename_i hwrites
      rw [if_pos hwrites] at hvalue
      rcases List.mem_cons.1 hfield with rfl | hmem
      · rw [Reads, if_pos rfl]
        exact hvalue.reads a hdepth
      · exact hlater hmem
    · exact hlater hfield

/-- The fields of an object, in any order, are read as their values. -/
theorem read_members {γ : Type} {fields : Fields γ} (hnames : fields.names.Nodup) {levels depth : Nat} {values : γ}
    (h : fields.Faithful levels values) (hdepth : levels ≤ depth) (a : Arrangement) {members : List (String × Json)}
    (hmembers : members.Perm ((fields.write values).map fun field => (field.1, a.apply field.2))) :
    fields.read (depth + 1) (Json.obj members).document = .ok values := by
  have hkeys : (members.map Prod.fst).Perm ((fields.write values).map Prod.fst) := by
    have h := hmembers.map Prod.fst
    rw [List.map_map] at h
    exact h
  have hnodup : (members.map Prod.fst).Nodup :=
    hkeys.nodup_iff.2 (hnames.sublist (fields.write_names_sublist values))
  have hreads : ∀ m ∈ members, fields.Reads depth m.1 m.2.document values := by
    intro m hm
    obtain ⟨field, hfield, rfl⟩ := List.mem_map.1 (hmembers.mem_iff.1 hm)
    exact reads_of_mem_write hnames h hfield a hdepth
  obtain ⟨filled, hput, hfilled⟩ := putAll_filled hnames hreads
    (by simpa using List.nodup_reverse.2 hnodup) (filled_empty fields values)
  have hfinish := finish_filled hfilled h fun field hfield => by
    rw [List.append_nil, List.mem_reverse]
    exact hkeys.mem_iff.2 (List.mem_map_of_mem hfield)
  rw [document, read, hput]
  exact hfinish

end Fields

/-- A record is faithful when its fields are, one level further in. -/
theorem faithful_record {fields : Fields γ} {parts : α → γ} {make : γ → α} {levels : Nat} {value : α}
    (hnames : fields.names.Nodup) (hmake : make (parts value) = value) (h : fields.Faithful levels (parts value)) :
    (record fields parts make).Faithful (levels + 1) value := by
  constructor
  · exact plain_obj_iff.2 ⟨levels.succ_pos, fun field hfield => Fields.plain_of_mem_write h hfield⟩
  · intro a depth hdepth
    obtain ⟨inner, rfl⟩ := Nat.exists_eq_add_of_le' (Nat.le_trans (Nat.le_add_left 1 levels) hdepth)
    have hnodup := hnames.sublist (fields.write_names_sublist (parts value))
    obtain ⟨members, happly, hperm⟩ := a.apply_obj hnodup
    have hread := Fields.read_members hnames h (Nat.le_of_succ_le_succ hdepth) a hperm
    simp only [record, happly, hread, Except.map, hmake]

end Wire

end ChainClient
