import ChainClient.Proofs.Json.Token

/-!
# Tokens as documents

The tokens of a value, whatever containers are open around it, hand the containers the document of this value. It follows that the text of a plain value is read as exactly this value's document.
-/

namespace ChainClient.Json

open Assembly

/-- The tokens of the value give its document to the containers around it. -/
def Assembles (value : Json) : Prop :=
  ∀ outer, value.lexemes.foldl step (.value outer) = deliver value.document outer

theorem foldl_firstItem (value : Json) (outer : List Frame) :
    value.lexemes.foldl step (.firstItem outer) = value.lexemes.foldl step (.value (.array [] :: outer)) := by
  cases value <;> rfl

theorem itemsLexemes_cons_cons (item next : Json) (items : List Json) :
    itemsLexemes (item :: next :: items) = item.lexemes ++ .comma :: itemsLexemes (next :: items) := rfl

theorem fieldsLexemes_cons_cons (key : String) (value : Json) (next : String × Json) (fields : List (String × Json)) :
    fieldsLexemes ((key, value) :: next :: fields) =
      .text (some key) :: .colon :: (value.lexemes ++ .comma :: fieldsLexemes (next :: fields)) := rfl

theorem foldl_itemsLexemes {item : Json} {items : List Json} (h : ∀ i ∈ item :: items, Assembles i)
    (read : List Document) (outer : List Frame) :
    (itemsLexemes (item :: items)).foldl step (.value (.array read :: outer)) =
      afterItem ((documentItems (item :: items)).reverse ++ read) outer := by
  induction items generalizing item read with
  | nil => exact h item (List.mem_singleton_self _) _
  | cons next items ih =>
    obtain ⟨hitem, hitems⟩ := List.forall_mem_cons.1 h
    have hcomma : step (afterItem (item.document :: read) outer) .comma =
        .value (.array (item.document :: read) :: outer) := rfl
    rw [itemsLexemes_cons_cons, List.foldl_append, hitem, deliver, List.foldl_cons, hcomma, ih hitems]
    simp [documentItems]

theorem foldl_fieldsLexemes {field : String × Json} {fields : List (String × Json)}
    (h : ∀ f ∈ field :: fields, Assembles f.2) (read : List (Option String × Document)) (outer : List Frame)
    {state : Assembly} (hstate : ∀ key, step state (.text key) = .colon read key outer) :
    (fieldsLexemes (field :: fields)).foldl step state =
      afterMember ((documentFields (field :: fields)).reverse ++ read) outer := by
  induction fields generalizing field read state with
  | nil =>
    obtain ⟨key, value⟩ := field
    have hvalue := h (key, value) (List.mem_singleton_self _) (.object read (some key) :: outer)
    have hlexemes : fieldsLexemes [(key, value)] = .text (some key) :: .colon :: value.lexemes := rfl
    rw [hlexemes, List.foldl_cons, hstate, List.foldl_cons]
    exact hvalue
  | cons next fields ih =>
    obtain ⟨key, value⟩ := field
    obtain ⟨hvalue, hfields⟩ := List.forall_mem_cons.1 h
    have hcolon : step (.colon read (some key) outer) .colon = .value (.object read (some key) :: outer) := rfl
    have hcomma : step (afterMember ((some key, value.document) :: read) outer) .comma =
        .nextKey ((some key, value.document) :: read) outer := rfl
    rw [fieldsLexemes_cons_cons, List.foldl_cons, hstate, List.foldl_cons, hcolon, List.foldl_append, hvalue, deliver,
      List.foldl_cons, hcomma, ih hfields _ fun _ => rfl]
    simp [documentFields]

theorem assembles (value : Json) : Assembles value := by
  induction value using induction with
  | null | bool | int | double | str => exact fun outer => rfl
  | arr items ih =>
    intro outer
    have hopen : step (.value outer) .openArray = .firstItem outer := rfl
    rw [lexemes, List.foldl_cons, hopen, List.foldl_append]
    cases items with
    | nil => rfl
    | cons item items =>
      have hfirst : (itemsLexemes (item :: items)).foldl step (.firstItem outer) =
          (itemsLexemes (item :: items)).foldl step (.value (.array [] :: outer)) := by
        cases items with
        | nil => exact foldl_firstItem item outer
        | cons next items => rw [itemsLexemes_cons_cons, List.foldl_append, foldl_firstItem, List.foldl_append]
      rw [hfirst, foldl_itemsLexemes ih, List.append_nil, List.foldl_cons, List.foldl_nil, step, List.reverse_reverse]
      rfl
  | obj fields ih =>
    intro outer
    have hopen : step (.value outer) .openObject = .firstKey outer := rfl
    rw [lexemes, List.foldl_cons, hopen, List.foldl_append]
    cases fields with
    | nil => rfl
    | cons field fields =>
      rw [foldl_fieldsLexemes ih [] outer fun _ => rfl, List.append_nil, List.foldl_cons, List.foldl_nil, step,
        List.reverse_reverse]
      rfl

/-- The text of a plain value is one value, and it is this one. -/
theorem ofBytes_bytes {depth : Nat} {value : Json} (h : value.Plain depth) :
    Document.ofBytes value.bytes = (value.document, true) := by
  rw [Document.ofBytes, tokens_bytes h, assembles value]
  rfl

end ChainClient.Json
