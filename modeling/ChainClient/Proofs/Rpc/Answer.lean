import ChainClient.Proofs.Codec.Scalars
import ChainClient.Proofs.Encoding.Base64
import ChainClient.Proofs.Encoding.Hex
import ChainClient.Proofs.Json.Faithful
import ChainClient.Rpc.Answer

/-!
# Answers of a server read back

What a server says about a broadcast is read as what it is: the receipt of a transaction that was only checked, and the inclusion of one that was delivered, whose execution may stand under either of its two keys. The reply around it may leave the error out.
-/

namespace ChainClient.Rpc

open Json Wire

variable {α γ : Type} {levels : Nat}

/-! ### Formats made of others -/

theorem faithful_checked {wire : Wire α} {holds : α → Bool} {value : α} (h : wire.Faithful levels value)
    (hholds : holds value) : (checked wire holds).Faithful levels value := by
  refine ⟨h.plain, fun a depth hdepth => ?_⟩
  have hread := h.reads a hdepth
  exact bind_eq_ok.2 ⟨value, hread, if_pos hholds⟩

/-- A list that is not written as `null` itself. -/
theorem faithful_nullable {wire : Wire (List α)} {values : List α} (h : wire.Faithful levels values)
    (hnull : wire.write values ≠ .null) : (nullable wire).Faithful levels values := by
  refine ⟨h.plain, fun a depth hdepth => ?_⟩
  have hread := h.reads a hdepth
  simp only [nullable]
  split
  · rename_i heq
    exact absurd (document_apply_eq_null heq) hnull
  · exact hread

theorem faithful_base64 (levels : Nat) (bytes : Bytes) : base64.Faithful levels bytes :=
  faithful_texted (by rw [Base64.decode_encode]; rfl) levels

theorem faithful_rawText (levels : Nat) (text : String) : rawText.Faithful levels (Bytes.ofText text) :=
  faithful_texted (by rw [Bytes.toText?_ofText]; rfl) levels

/-- A digest is complete or missing. -/
def IsDigest (bytes : Bytes) : Prop := bytes = [] ∨ bytes.length = 32

/-- Nothing is filled up in a digest that is complete or missing. -/
theorem digestOfHex?_of_pairs? {cs : List Char} {bytes : Bytes} (h : Hex.pairs? cs = some bytes) (hdigest : IsDigest bytes) :
    digestOfHex? cs = some bytes := by
  rw [digestOfHex?, h]
  rcases hdigest with rfl | hlength
  · rfl
  · cases bytes with
    | nil => rfl
    | cons first rest =>
      dsimp only
      rw [if_neg (by omega), hlength, Nat.sub_self, List.replicate_zero, List.append_nil]

theorem faithful_digest {bytes : Bytes} (h : IsDigest bytes) (levels : Nat) : digest.Faithful levels bytes :=
  faithful_texted (digestOfHex?_of_pairs? (Hex.pairs?_encodeUpper bytes) h) levels

theorem faithful_height {h : Int64} (hpos : 0 ≤ h.toInt) (levels : Nat) : Rpc.height.Faithful levels h :=
  faithful_checked (faithful_quotedInt64 levels h) (decide_eq_true hpos)

/-! ### What is said about a transaction -/

@[simp] theorem Attribute.faithful_wire (a : Attribute) : wire.Faithful (levels + 1) a :=
  faithful_record (by decide) rfl (by simp)

@[simp] theorem Event.faithful_wire (e : Event) : wire.Faithful (levels + 3) e :=
  faithful_record (by decide) rfl (by simp)

/-- The data that an execution gives are those of a text, as JSON has them. -/
def Execution.HasTextData (e : Execution) : Prop := ∃ text, e.data = Bytes.ofText text

theorem Execution.HasTextData.faithful_nullable {e : Execution} (h : e.HasTextData) (levels : Nat) :
    (nullable rawText).Faithful levels e.data := by
  obtain ⟨text, hdata⟩ := h
  rw [hdata]
  exact Rpc.faithful_nullable (faithful_rawText levels text) Json.noConfusion

theorem Execution.faithful_wire {e : Execution} (h : e.HasTextData) : wire.Faithful (levels + 5) e :=
  faithful_record (by decide) rfl (by simp [h.faithful_nullable])

theorem Check.faithful_wire {c : Check} (h : c.execution.HasTextData) : wire.Faithful (levels + 5) c :=
  faithful_record (by decide) rfl (by simp [h.faithful_nullable])

theorem Receipt.faithful_wire {r : Receipt} (h : IsDigest r.hash) : wire.Faithful (levels + 1) r := by
  have hdata : (nullable base64).Faithful levels r.data := faithful_nullable (faithful_base64 _ _) Json.noConfusion
  exact faithful_record (by decide) rfl (by simp [hdata, faithful_digest h])

/-! ### Two keys for one member -/

/-- The members of an object with one key in place of another. -/
def Members.renamed (other key : String) (members : List (String × Json)) : List (String × Json) :=
  members.map fun m => (if m.1 = other then key else m.1, m.2)

theorem renamed_document (other key : String) (members : List (String × Json)) :
    renamed other key (Json.obj members).document = (Json.obj (Members.renamed other key members)).document := by
  simp only [document, documentFields_eq_map, renamed, Members.renamed, List.map_map]
  congr 1
  refine List.map_congr_left fun m _ => ?_
  by_cases h : m.1 = other <;> simp [h]

theorem read_alsoUnder {fields : Fields γ} {parts : α → γ} {make : γ → α} {value : α} {other key : String}
    (hnames : fields.names.Nodup) (hmake : make (parts value) = value) (h : fields.Faithful levels (parts value))
    {depth : Nat} (hdepth : levels + 1 ≤ depth) {members : List (String × Json)}
    (hmembers : (Members.renamed other key members).Perm (fields.write (parts value))) :
    (alsoUnder other key (record fields parts make)).read depth (Json.obj members).document = .ok value := by
  obtain ⟨inner, rfl⟩ := Nat.exists_eq_add_of_le' (Nat.le_trans (Nat.le_add_left 1 levels) hdepth)
  have hsame : ((fields.write (parts value)).map fun field => (field.1, Arrangement.declared.apply field.2)) =
      fields.write (parts value) := List.map_id _
  have hread := Fields.read_members hnames h (Nat.le_of_succ_le_succ hdepth) .declared (hsame ▸ hmembers)
  simp only [alsoUnder, renamed_document, record, hread, Except.map, hmake]

/-- An inclusion in which the execution stands under a key. -/
def Inclusion.json (key : String) (i : Inclusion) : Json :=
  .obj [("check_tx", Check.wire.write i.check), (key, Execution.wire.write i.delivery), ("hash", digest.write i.hash),
    ("height", Rpc.height.write i.height)]

/-- The inclusion of a transaction, as far as JSON and the server can tell it. -/
structure Inclusion.Sound (i : Inclusion) : Prop where
  check : i.check.execution.HasTextData
  delivery : i.delivery.HasTextData
  hash : IsDigest i.hash
  height : 0 ≤ i.height.toInt

theorem Inclusion.read_json {i : Inclusion} (h : i.Sound) {key : String} (hkey : key = "deliver_tx" ∨ key = "tx_result")
    {depth : Nat} (hdepth : 6 ≤ depth) : wire.read depth (i.json key).document = .ok i := by
  refine read_alsoUnder ?names ?make ?fields hdepth ?members
  case names => decide
  case make => rfl
  case fields =>
    simp [Check.faithful_wire h.check, Execution.faithful_wire h.delivery, faithful_digest h.hash,
      faithful_height h.height]
  case members => rcases hkey with rfl | rfl <;> exact .refl _

theorem Inclusion.plain_json {i : Inclusion} (h : i.Sound) (key : String) : (i.json key).Plain 6 := by
  refine plain_obj_iff.2 ⟨by decide, ?_⟩
  simp only [List.forall_mem_cons]
  exact ⟨(Check.faithful_wire h.check).plain, (Execution.faithful_wire h.delivery).plain,
    (faithful_digest h.hash 5).plain, (faithful_height h.height 5).plain, nofun⟩

/-! ### Replies -/

/-- The body of a reply to a request, with a result and no mention of an error. -/
def Reply.body (id result : Json) : Bytes :=
  (Json.obj [("jsonrpc", .str "2.0"), ("id", id), ("result", result)]).bytes

theorem resultOf?_body {wire : Wire α} {value : α} {id result : Json} (hid : id.Regular 126) (hplain : result.Plain 126)
    (hnull : result ≠ .null) (hread : wire.read 126 result.document = .ok value) :
    resultOf? wire (Reply.body id result) = some value := by
  have hbody : (Json.obj [("jsonrpc", .str "2.0"), ("id", id), ("result", result)]).Plain maxDepth := by
    refine plain_obj_iff.2 ⟨by decide, ?_⟩
    simp only [List.forall_mem_cons]
    exact ⟨trivial, hid.plain, hplain, nofun⟩
  have hfree : freeForm.read 126 id.document = .ok id :=
    (faithful_freeForm hid.plain hid.ordered).reads .declared (Nat.le_refl _)
  have hresult : (option wire).read 126 result.document = .ok (some value) :=
    read_option hread fun heq => hnull (document_apply_eq_null (a := .declared) heq)
  have hreply : (Reply.wire wire).read maxDepth
      (Json.obj [("jsonrpc", .str "2.0"), ("id", id), ("result", result)]).document =
        .ok ⟨"2.0", id, some value, none⟩ := by
    simp [Reply.wire, record, field, optionalField, Fields.read, Fields.putAll, Fields.put, Fields.empty, Fields.finish,
      Presence.fallback?, document, documentFields, maxDepth, hfree, hresult, string, bind, Except.bind, Except.map]
  have hbytes : (Reply.wire wire).readBytes (Reply.body id result) = .ok ⟨"2.0", id, some value, none⟩ := by
    rw [readBytes, Reply.body, ofBytes_bytes hbody]
    exact bind_eq_ok.2 ⟨_, hreply, rfl⟩
  rw [resultOf?, hbytes]
  rfl

end ChainClient.Rpc
