import ChainClient.Proofs.Json.Token
import ChainClient.Proofs.Number.DoubleText

/-!
# Printed values are read in one way

No two values have the same text. The text of a value shows by its first character what kind of value it is, and it ends where what follows it cannot belong to it: behind its closing mark, or at the first character that no number contains. So the text in front of a comma or a closing mark determines the value, whatever quotes and marks the strings in it contain.
-/

namespace ChainClient.Json

open FiniteDouble (IsNumberChar isNumberChar_of_mem_integer isNumberChar_of_mem_text)

/-! ### What follows a value -/

/-- What follows cannot continue a number. -/
def Stops (rest : List Char) : Prop := ∀ c ∈ rest.head?, ¬ IsNumberChar c

theorem stops_nil : Stops [] := by
  intro c hc
  simp at hc

theorem stops_cons {c : Char} (h : ¬ IsNumberChar c) (rest : List Char) : Stops (c :: rest) := by
  intro d hd
  simp only [List.head?_cons, Option.mem_def, Option.some.injEq] at hd
  rwa [← hd]

/-- What is printed of something, in front of what cannot continue it, determines it. -/
def Delimited {α : Type} (print : α → List Char) (x : α) : Prop :=
  ∀ y rest rest', Stops rest → Stops rest' → print x ++ rest = print y ++ rest' → x = y ∧ rest = rest'

theorem numbers_append_inj {left right rest rest' : List Char} (hleft : ∀ c ∈ left, IsNumberChar c)
    (hright : ∀ c ∈ right, IsNumberChar c) (hrest : Stops rest) (hrest' : Stops rest')
    (h : left ++ rest = right ++ rest') : left = right ∧ rest = rest' := by
  induction left generalizing right with
  | nil =>
    cases right with
    | nil => exact ⟨rfl, h⟩
    | cons d right =>
      rw [List.nil_append, List.cons_append] at h
      exact absurd (hright d List.mem_cons_self) (hrest d (by simp [h]))
  | cons c left ih =>
    cases right with
    | nil =>
      rw [List.nil_append, List.cons_append] at h
      exact absurd (hleft c List.mem_cons_self) (hrest' c (by simp [← h]))
    | cons d right =>
      obtain ⟨rfl, htail⟩ := List.cons.inj h
      obtain ⟨rfl, hrest⟩ := ih (fun c hc => hleft c (List.mem_cons_of_mem _ hc))
        (fun c hc => hright c (List.mem_cons_of_mem _ hc)) htail
      exact ⟨rfl, hrest⟩

/-! ### Strings -/

/-- A string ends at its own closing quote, whatever characters it contains. -/
theorem stringChars_append_inj {s t : String} {rest rest' : List Char}
    (h : stringChars s ++ rest = stringChars t ++ rest') : s = t ∧ rest = rest' := by
  -- the reader's scan finds the closing quote and gives back the text
  have htokens := congrArg (fun cs => tokensFrom .between (Bytes.ofChars cs)) h
  simp only [Bytes.ofChars_append, tokensFrom_stringChars, List.cons.injEq, Token.text.injEq, Option.some.injEq] at htokens
  obtain ⟨rfl, _⟩ := htokens
  exact ⟨rfl, List.append_cancel_left h⟩

/-! ### Lists with commas -/

def separated {α : Type} (print : α → List Char) : List α → List Char
  | [] => []
  | x :: xs => print x ++ xs.flatMap fun x => ',' :: print x

def fieldChars (field : String × Json) : List Char := stringChars field.1 ++ ':' :: chars field.2

theorem itemsChars_eq (items : List Json) : itemsChars items = separated chars items := by
  cases items with
  | nil => rfl
  | cons item items =>
    rw [separated]
    induction items generalizing item with
    | nil => simp [itemsChars]
    | cons next items ih =>
      rw [itemsChars, ih, List.flatMap_cons]
      · simp
      · simp

theorem fieldsChars_eq (fields : List (String × Json)) : fieldsChars fields = separated fieldChars fields := by
  cases fields with
  | nil => rfl
  | cons field fields =>
    rw [separated]
    induction fields generalizing field with
    | nil => simp [fieldsChars, fieldChars]
    | cons next fields ih =>
      rw [fieldsChars, ih, List.flatMap_cons, fieldChars.eq_1 field]
      · simp
      · simp

section Separated

variable {α : Type} {print : α → List Char} {close : Char} {rest rest' : List Char}

theorem stops_tail (hclose : ¬ IsNumberChar close) (xs : List α) :
    Stops ((xs.flatMap fun x => ',' :: print x) ++ close :: rest) := by
  cases xs with
  | nil => exact stops_cons hclose rest
  | cons x xs => exact stops_cons (by decide) _

theorem tail_append_inj (hclose : ¬ IsNumberChar close) (hcomma : close ≠ ',') {xs ys : List α}
    (hxs : ∀ x ∈ xs, Delimited print x)
    (h : (xs.flatMap fun x => ',' :: print x) ++ close :: rest = (ys.flatMap fun y => ',' :: print y) ++ close :: rest') :
    xs = ys ∧ rest = rest' := by
  induction xs generalizing ys with
  | nil =>
    cases ys with
    | nil => exact ⟨rfl, (List.cons.inj h).2⟩
    | cons y ys => exact absurd (List.cons.inj h).1 hcomma
  | cons x xs ih =>
    cases ys with
    | nil => exact absurd (List.cons.inj h).1.symm hcomma
    | cons y ys =>
      rw [List.flatMap_cons, List.flatMap_cons, List.cons_append, List.cons_append, List.cons_append, List.cons_append,
        List.append_assoc, List.append_assoc, List.cons.injEq] at h
      obtain ⟨rfl, htail⟩ := hxs x List.mem_cons_self y _ _ (stops_tail hclose xs) (stops_tail hclose ys) h.2
      obtain ⟨rfl, hrest⟩ := ih (fun x hx => hxs x (List.mem_cons_of_mem _ hx)) htail
      exact ⟨rfl, hrest⟩

theorem separated_append_inj (hclose : ¬ IsNumberChar close) (hcomma : close ≠ ',')
    (hstart : ∀ y tail tail', print y ++ tail ≠ close :: tail') {xs ys : List α} (hxs : ∀ x ∈ xs, Delimited print x)
    (h : separated print xs ++ close :: rest = separated print ys ++ close :: rest') : xs = ys ∧ rest = rest' := by
  cases xs with
  | nil =>
    cases ys with
    | nil => exact ⟨rfl, (List.cons.inj h).2⟩
    | cons y ys =>
      rw [separated.eq_2, List.append_assoc] at h
      exact absurd h.symm (hstart y _ _)
  | cons x xs =>
    rw [separated.eq_2, List.append_assoc] at h
    cases ys with
    | nil => exact absurd h (hstart x _ _)
    | cons y ys =>
      rw [separated.eq_2, List.append_assoc] at h
      obtain ⟨rfl, htail⟩ := hxs x List.mem_cons_self y _ _ (stops_tail hclose xs) (stops_tail hclose ys) h
      obtain ⟨rfl, hrest⟩ := tail_append_inj hclose hcomma (fun x hx => hxs x (List.mem_cons_of_mem _ hx)) htail
      exact ⟨rfl, hrest⟩

end Separated

/-! ### The first character -/

/-- The mark of what a value is. -/
def kind : Json → Char
  | null => 'n'
  | bool _ => 't'
  | int _ => '0'
  | double _ => '0'
  | str _ => '"'
  | arr _ => '['
  | obj _ => '\x7b'

/-- The kind of the value that starts with this character. -/
def kindOf (c : Char) : Char := if c.isDigit ∨ c = '-' then '0' else if c = 'f' then 't' else c

theorem exists_chars_eq_cons (value : Json) : ∃ c rest, value.chars = c :: rest ∧ kindOf c = value.kind := by
  cases value with
  | null => exact ⟨_, _, rfl, rfl⟩
  | bool value => cases value <;> exact ⟨_, _, rfl, rfl⟩
  | int n =>
    obtain ⟨c, rest, heq⟩ := List.exists_cons_of_ne_nil (integer_ne_nil n)
    have hc := Text.isDigit_or_minus_of_mem_integer (heq ▸ List.mem_cons_self : c ∈ Text.integer n)
    exact ⟨c, rest, by rw [chars, heq], if_pos hc⟩
  | double x =>
    obtain ⟨c, rest, heq, hc⟩ := x.exists_text_eq_cons
    exact ⟨c, rest, by rw [chars, heq], if_pos hc⟩
  | str text => exact ⟨_, _, rfl, rfl⟩
  | arr items => exact ⟨_, _, rfl, rfl⟩
  | obj fields => exact ⟨_, _, rfl, rfl⟩

theorem kind_eq {value other : Json} {rest rest' : List Char} (h : value.chars ++ rest = other.chars ++ rest') :
    value.kind = other.kind := by
  obtain ⟨c, tail, heq, hkind⟩ := value.exists_chars_eq_cons
  obtain ⟨d, tail', heq', hkind'⟩ := other.exists_chars_eq_cons
  rw [heq, heq', List.cons_append, List.cons_append, List.cons.injEq] at h
  rw [← hkind, ← hkind', h.1]

theorem chars_append_ne_bracket (value : Json) (rest rest' : List Char) : value.chars ++ rest ≠ ']' :: rest' := by
  obtain ⟨c, tail, heq, hkind⟩ := value.exists_chars_eq_cons
  intro h
  rw [heq, List.cons_append, List.cons.injEq] at h
  rw [h.1] at hkind
  cases value <;> exact absurd hkind (by rw [kind]; decide)

/-! ### Values -/

theorem delimited_field {field : String × Json} (h : Delimited chars field.2) : Delimited fieldChars field := by
  intro other rest rest' hrest hrest' heq
  obtain ⟨key, value⟩ := field
  obtain ⟨key', value'⟩ := other
  rw [fieldChars, fieldChars, List.append_assoc, List.append_assoc] at heq
  obtain ⟨rfl, htail⟩ := stringChars_append_inj heq
  obtain ⟨rfl, hrest⟩ := h value' rest rest' hrest hrest' (List.cons.inj htail).2
  exact ⟨rfl, hrest⟩

theorem isNumberChar_of_mem_chars {value : Json} (h : value.kind = '0') {c : Char} (hc : c ∈ value.chars) :
    IsNumberChar c := by
  cases value with
  | int n => exact isNumberChar_of_mem_integer hc
  | double x => exact isNumberChar_of_mem_text hc
  | null | bool | str | arr | obj => exact absurd h (by rw [kind]; decide)

theorem number_injective {value other : Json} (hvalue : value.kind = '0') (hother : other.kind = '0')
    (h : value.chars = other.chars) : value = other := by
  cases value with
  | int n =>
    cases other with
    | int m => exact congrArg int (Text.integer_injective h)
    | double y => exact absurd h.symm (y.text_ne_integer n)
    | null | bool | str | arr | obj => exact absurd hother (by rw [kind]; decide)
  | double x =>
    cases other with
    | int m => exact absurd h (x.text_ne_integer m)
    | double y => exact congrArg double (FiniteDouble.text_injective h)
    | null | bool | str | arr | obj => exact absurd hother (by rw [kind]; decide)
  | null | bool | str | arr | obj => exact absurd hvalue (by rw [kind]; decide)

/-- A number is read up to the first character that no number contains. -/
theorem delimited_number {value : Json} (hvalue : value.kind = '0') : Delimited chars value := by
  intro other rest rest' hrest hrest' h
  have hother : other.kind = '0' := (kind_eq h).symm.trans hvalue
  obtain ⟨heq, htail⟩ := numbers_append_inj (fun _ => isNumberChar_of_mem_chars hvalue)
    (fun _ => isNumberChar_of_mem_chars hother) hrest hrest' h
  exact ⟨number_injective hvalue hother heq, htail⟩

theorem delimited_arr {items : List Json} (hitems : ∀ item ∈ items, Delimited chars item) : Delimited chars (arr items) := by
  intro other rest rest' _ _ h
  have hkind := kind_eq h
  cases other with
  | arr items' =>
    simp only [chars, itemsChars_eq, List.cons_append, List.append_assoc, List.cons.injEq, true_and, List.nil_append] at h
    obtain ⟨rfl, htail⟩ := separated_append_inj (by decide) (by decide) chars_append_ne_bracket hitems h
    exact ⟨rfl, htail⟩
  | null | bool | int | double | str | obj => exact absurd hkind (by rw [kind, kind]; decide)

theorem delimited_obj {fields : List (String × Json)} (hfields : ∀ field ∈ fields, Delimited chars field.2) :
    Delimited chars (obj fields) := by
  intro other rest rest' _ _ h
  have hkind := kind_eq h
  have hquote : ∀ (field : String × Json) (tail tail' : List Char), fieldChars field ++ tail ≠ '\x7d' :: tail' :=
    fun field tail tail' heq => absurd (List.cons.inj heq).1 (by decide)
  cases other with
  | obj fields' =>
    simp only [chars, fieldsChars_eq, List.cons_append, List.append_assoc, List.cons.injEq, true_and, List.nil_append] at h
    obtain ⟨rfl, htail⟩ := separated_append_inj (by decide) (by decide) hquote
      (fun field hfield => delimited_field (hfields field hfield)) h
    exact ⟨rfl, htail⟩
  | null | bool | int | double | str | arr => exact absurd hkind (by rw [kind, kind]; decide)

theorem delimited_chars (value : Json) : Delimited chars value := by
  induction value using induction with
  | null =>
    intro other rest rest' _ _ h
    have hkind := kind_eq h
    cases other with
    | null => exact ⟨rfl, List.append_cancel_left h⟩
    | bool | int | double | str | arr | obj => exact absurd hkind (by rw [kind, kind]; decide)
  | bool b =>
    intro other rest rest' _ _ h
    have hkind := kind_eq h
    cases other with
    | bool b' =>
      cases b <;> cases b' <;> simp [chars] at h ⊢ <;> exact h
    | null | int | double | str | arr | obj => exact absurd hkind (by rw [kind, kind]; decide)
  | int n => exact delimited_number rfl
  | double x => exact delimited_number rfl
  | str text =>
    intro other rest rest' _ _ h
    have hkind := kind_eq h
    cases other with
    | str text' =>
      obtain ⟨rfl, htail⟩ := stringChars_append_inj h
      exact ⟨rfl, htail⟩
    | null | bool | int | double | arr | obj => exact absurd hkind (by rw [kind, kind]; decide)
  | arr items ih => exact delimited_arr ih
  | obj fields ih => exact delimited_obj ih

theorem chars_injective {value other : Json} (h : value.chars = other.chars) : value = other :=
  (delimited_chars value other [] [] stops_nil stops_nil (by rw [h])).1

/-- No two values have the same bytes. -/
theorem bytes_injective {value other : Json} (h : value.bytes = other.bytes) : value = other := by
  have htext : value.text = other.text := Bytes.ofText_injective h
  exact chars_injective (String.ofList_injective htext)

end ChainClient.Json
