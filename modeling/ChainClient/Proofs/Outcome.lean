import Mathlib.Data.List.Forall2

/-!
# Computations that may fail

A computation that may fail succeeds exactly when each of its steps does, so a success is taken apart from the end to the start. What it fails with is what one of its steps fails with, so a property of all its failures is shown step by step.
-/

namespace ChainClient

variable {ε ζ α β : Type}

theorem bind_eq_ok {x : Except ε α} {f : α → Except ε β} {b : β} : (x >>= f) = .ok b ↔ ∃ a, x = .ok a ∧ f a = .ok b := by
  cases x <;> simp [bind, Except.bind]

theorem map_eq_ok {x : Except ε α} {f : α → β} {b : β} : x.map f = .ok b ↔ ∃ a, x = .ok a ∧ f a = b := by
  cases x <;> simp [Except.map]

@[simp] theorem mapError_ok (f : ε → ζ) (a : α) : (Except.ok a : Except ε α).mapError f = .ok a := rfl

theorem mapError_eq_ok {x : Except ε α} {f : ε → ζ} {a : α} : x.mapError f = .ok a ↔ x = .ok a := by
  cases x with
  | error e => exact ⟨nofun, nofun⟩
  | ok b => rw [mapError_ok, Except.ok.injEq, Except.ok.injEq]

/-- Behind a guard only those get who pass it. -/
theorem guard_eq_ok {p : Prop} [Decidable p] {e : ε} {x : Except ε α} {a : α} :
    (if p then .error e else x) = .ok a ↔ ¬ p ∧ x = .ok a := by
  by_cases hp : p <;> simp [hp]

theorem forM_eq_ok {items : List α} {check : α → Except ε Unit} :
    items.forM check = .ok () ↔ ∀ item ∈ items, check item = .ok () := by
  induction items with
  | nil => exact ⟨fun _ _ hitem => absurd hitem List.not_mem_nil, fun _ => rfl⟩
  | cons head tail ih =>
    rw [List.forall_mem_cons, ← ih]
    constructor
    · intro h
      obtain ⟨_, hhead, htail⟩ := bind_eq_ok.1 h
      exact ⟨hhead, htail⟩
    · rintro ⟨hhead, htail⟩
      exact bind_eq_ok.2 ⟨(), hhead, htail⟩

/-- A list is computed item by item. -/
theorem mapM_eq_ok_iff {f : α → Except ε β} {items : List α} {values : List β} :
    items.mapM f = .ok values ↔ List.Forall₂ (fun item value => f item = .ok value) items values := by
  induction items generalizing values with
  | nil =>
    rw [List.mapM_nil, List.forall₂_nil_left_iff]
    exact ⟨fun h => (Except.ok.inj h).symm, fun h => h ▸ rfl⟩
  | cons item items ih =>
    rw [List.mapM_cons, List.forall₂_cons_left_iff]
    constructor
    · intro h
      obtain ⟨value, hvalue, hrest⟩ := bind_eq_ok.1 h
      obtain ⟨rest, hitems, hwhole⟩ := bind_eq_ok.1 hrest
      exact ⟨value, rest, hvalue, ih.1 hitems, (Except.ok.inj hwhole).symm⟩
    · rintro ⟨value, rest, hvalue, hitems, rfl⟩
      exact bind_eq_ok.2 ⟨value, hvalue, bind_eq_ok.2 ⟨rest, ih.2 hitems, rfl⟩⟩

/-- Each item of a list has its value in a matching list. -/
theorem exists_of_mem_left {r : α → β → Prop} {items : List α} {values : List β} (h : List.Forall₂ r items values)
    {item : α} (hitem : item ∈ items) : ∃ value ∈ values, r item value := by
  induction h with
  | nil => exact absurd hitem List.not_mem_nil
  | cons hhead _ ih =>
    rcases List.mem_cons.1 hitem with rfl | hmem
    · exact ⟨_, List.mem_cons_self, hhead⟩
    · obtain ⟨value, hvalue, hmatch⟩ := ih hmem
      exact ⟨value, List.mem_cons_of_mem _ hvalue, hmatch⟩

theorem exists_of_mem_right {r : α → β → Prop} {items : List α} {values : List β} (h : List.Forall₂ r items values)
    {value : β} (hvalue : value ∈ values) : ∃ item ∈ items, r item value := exists_of_mem_left h.flip hvalue

/-- Where the values of single items are to be had, those of all items are. -/
theorem exists_forall₂_iff {r : α → β → Prop} {items : List α} :
    (∃ values, List.Forall₂ r items values) ↔ ∀ item ∈ items, ∃ value, r item value := by
  induction items with
  | nil => exact iff_of_true ⟨[], .nil⟩ nofun
  | cons item items ih =>
    rw [List.forall_mem_cons, ← ih]
    constructor
    · rintro ⟨_, h⟩
      obtain ⟨value, values, hvalue, hvalues, -⟩ := List.forall₂_cons_left_iff.1 h
      exact ⟨⟨value, hvalue⟩, values, hvalues⟩
    · rintro ⟨⟨value, hvalue⟩, values, hvalues⟩
      exact ⟨value :: values, .cons hvalue hvalues⟩

/-- An item has one value at most when it is computed. -/
theorem rightUnique_eq_ok (f : α → Except ε β) : Relator.RightUnique fun item value => f item = .ok value :=
  fun _ _ _ hleft hright => Except.ok.inj (hleft.symm.trans hright)

/-- What holds between any two values of a list is seen in the items, where an item has one value at most. -/
theorem pairwise_iff_of_forall₂ {r : α → β → Prop} (hr : Relator.RightUnique r) {p : β → β → Prop} {items : List α}
    {values : List β} (h : List.Forall₂ r items values) :
    values.Pairwise p ↔ items.Pairwise fun left right => ∀ a b, r left a → r right b → p a b := by
  induction h with
  | nil => exact iff_of_true .nil .nil
  | @cons item value items values hvalue hvalues ih =>
    have hhead : (∀ other ∈ values, p value other) ↔ ∀ other ∈ items, ∀ a b, r item a → r other b → p a b := by
      constructor
      · intro hall other hother a b ha hb
        obtain ⟨found, hfound, hmatch⟩ := exists_of_mem_left hvalues hother
        rw [hr ha hvalue, hr hb hmatch]
        exact hall found hfound
      · intro hall found hfound
        obtain ⟨other, hother, hmatch⟩ := exists_of_mem_right hvalues hfound
        exact hall other hother value found hvalue hmatch
    rw [List.pairwise_cons, List.pairwise_cons, ih, hhead]

/-- Each value of a computed list comes from an item. -/
theorem exists_of_mem_mapM {f : α → Except ε β} {items : List α} {values : List β} (h : items.mapM f = .ok values)
    {value : β} (hvalue : value ∈ values) : ∃ item ∈ items, f item = .ok value :=
  exists_of_mem_right (mapM_eq_ok_iff.1 h) hvalue

/-! ### Failures -/

/-- Whatever the computation fails with has the property. -/
def FailsOnly (p : ε → Prop) (x : Except ε α) : Prop := ∀ e, x = .error e → p e

section FailsOnly

variable {p : ε → Prop} {x : Except ε α}

theorem failsOnly_ok (a : α) : FailsOnly p (.ok a : Except ε α) := nofun

theorem failsOnly_error {e : ε} (h : p e) : FailsOnly p (.error e : Except ε α) := by
  intro cause hcause
  cases hcause
  exact h

theorem FailsOnly.mono {q : ε → Prop} (h : FailsOnly p x) (hq : ∀ e, p e → q e) : FailsOnly q x :=
  fun e he => hq e (h e he)

theorem FailsOnly.bind {f : α → Except ε β} (h : FailsOnly p x) (hf : ∀ a, x = .ok a → FailsOnly p (f a)) :
    FailsOnly p (x >>= f) := by
  cases x with
  | error e => exact failsOnly_error (h e rfl)
  | ok a => exact hf a rfl

theorem FailsOnly.map (h : FailsOnly p x) (f : α → β) : FailsOnly p (x.map f) := by
  cases x with
  | error e => exact failsOnly_error (h e rfl)
  | ok a => exact failsOnly_ok _

theorem failsOnly_mapError {q : ζ → Prop} {f : ε → ζ} (h : ∀ e, x = .error e → q (f e)) : FailsOnly q (x.mapError f) := by
  cases x with
  | error e => exact failsOnly_error (h e rfl)
  | ok a => exact failsOnly_ok a

theorem failsOnly_guard {condition : Prop} [Decidable condition] {e : ε} (he : p e)
    (h : ¬ condition → FailsOnly p x) : FailsOnly p (if condition then .error e else x) := by
  by_cases hcondition : condition
  · rw [if_pos hcondition]
    exact failsOnly_error he
  · rw [if_neg hcondition]
    exact h hcondition

theorem failsOnly_mapM {items : List α} {f : α → Except ε β} (h : ∀ item ∈ items, FailsOnly p (f item)) :
    FailsOnly p (items.mapM f) := by
  induction items with
  | nil => exact failsOnly_ok []
  | cons item items ih =>
    obtain ⟨hitem, hitems⟩ := List.forall_mem_cons.1 h
    rw [List.mapM_cons]
    exact hitem.bind fun _ _ => (ih hitems).bind fun _ _ => failsOnly_ok _

end FailsOnly

end ChainClient
