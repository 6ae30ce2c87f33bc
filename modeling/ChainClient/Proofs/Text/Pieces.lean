import Mathlib.Data.List.TakeWhile
import ChainClient.Text.Blank

/-!
# Texts cut at a separator

A text is cut at the first occurrence of a separator, or at every occurrence. Cutting at every occurrence is the library's function on lists, so it and joining with the separator undo each other as long as no piece holds the separator. What is added to a text in front or behind without a separator goes to its first or its last piece, so trimming a text trims its outer pieces.
-/

namespace ChainClient.Text

variable {separator : Char} {cs before after : List Char}

/-! ### At the first occurrence -/

theorem splitOnce_append (h : separator ∉ before) (after : List Char) :
    splitOnce separator (before ++ separator :: after) = some (before, after) := by
  induction before with
  | nil => simp [splitOnce]
  | cons c before ih =>
    rw [List.mem_cons, not_or] at h
    rw [List.cons_append, splitOnce, if_neg (Ne.symm h.1), ih h.2]
    rfl

theorem splitOnce_eq_none (h : separator ∉ cs) : splitOnce separator cs = none := by
  induction cs with
  | nil => rfl
  | cons c cs ih =>
    rw [List.mem_cons, not_or] at h
    rw [splitOnce, if_neg (Ne.symm h.1), ih h.2]
    rfl

theorem splitOnce_eq_some (h : splitOnce separator cs = some (before, after)) : cs = before ++ separator :: after := by
  induction cs generalizing before with
  | nil => cases h
  | cons c cs ih =>
    rw [splitOnce] at h
    by_cases hc : c = separator
    · rw [if_pos hc] at h
      cases h
      rw [hc, List.nil_append]
    · rw [if_neg hc] at h
      obtain ⟨⟨front, back⟩, hrest, heq⟩ := Option.map_eq_some_iff.1 h
      cases heq
      rw [ih hrest, List.cons_append]

/-! ### At every occurrence -/

theorem splitOn_eq (separator : Char) (cs : List Char) : splitOn separator cs = List.splitOn separator cs := by
  induction cs with
  | nil => rfl
  | cons c cs ih =>
    rw [splitOn, ih, List.splitOn_eq_splitOnP, List.splitOn_eq_splitOnP, List.splitOnP_cons_eq_if_modifyHead]
    simp only [beq_iff_eq]
    by_cases hc : c = separator
    · rw [if_pos hc, if_pos hc]
    · obtain ⟨piece, pieces, hpieces⟩ := List.exists_cons_of_ne_nil (List.splitOnP_ne_nil (fun d => d == separator) cs)
      rw [if_neg hc, if_neg hc, hpieces]
      rfl

theorem splitOn_ne_nil (separator : Char) (cs : List Char) : splitOn separator cs ≠ [] := by
  rw [splitOn_eq]
  exact List.splitOn_ne_nil separator cs

theorem splitOn_of_not_mem (h : separator ∉ cs) : splitOn separator cs = [cs] := by
  rw [splitOn_eq]
  exact List.splitOn_eq_singleton h

theorem splitOn_append_cons (separator : Char) (before after : List Char) :
    splitOn separator (before ++ separator :: after) = splitOn separator before ++ splitOn separator after := by
  simp only [splitOn_eq, List.splitOn_eq_splitOnP]
  exact List.splitOnP_append_cons before after (beq_self_eq_true separator)

/-- Pieces that were joined are found again. -/
theorem splitOn_intercalate {pieces : List (List Char)} (hnone : ∀ piece ∈ pieces, separator ∉ piece) (hne : pieces ≠ []) :
    splitOn separator ([separator].intercalate pieces) = pieces := by
  rw [splitOn_eq]
  exact List.splitOn_intercalate separator hnone hne

theorem intercalate_splitOn (separator : Char) (cs : List Char) : [separator].intercalate (splitOn separator cs) = cs := by
  rw [splitOn_eq]
  exact List.intercalate_splitOn separator

/-- What the separator and all pieces have in each of their characters, the joined text has too. -/
theorem forall_mem_intercalate {p : Char → Prop} {pieces : List (List Char)} (hseparator : p separator)
    (h : ∀ piece ∈ pieces, ∀ c ∈ piece, p c) : ∀ c ∈ [separator].intercalate pieces, p c := by
  induction pieces with
  | nil => exact nofun
  | cons piece pieces ih =>
    obtain ⟨hpiece, hpieces⟩ := List.forall_mem_cons.1 h
    cases pieces with
    | nil => rwa [List.intercalate_singleton]
    | cons next pieces =>
      rw [List.intercalate_cons_cons, List.append_assoc, List.singleton_append]
      exact List.forall_mem_append.2 ⟨hpiece, List.forall_mem_cons.2 ⟨hseparator, ih hpieces⟩⟩

/-- Characters in front belong to the first piece. -/
theorem splitOn_append_left (h : separator ∉ before) (cs : List Char) :
    ∃ first rest, splitOn separator cs = first :: rest ∧ splitOn separator (before ++ cs) = (before ++ first) :: rest := by
  induction before with
  | nil =>
    obtain ⟨first, rest, hpieces⟩ := List.exists_cons_of_ne_nil (splitOn_ne_nil separator cs)
    exact ⟨first, rest, hpieces, hpieces⟩
  | cons c before ih =>
    rw [List.mem_cons, not_or] at h
    obtain ⟨first, rest, hpieces, hlonger⟩ := ih h.2
    refine ⟨first, rest, hpieces, ?_⟩
    rw [List.cons_append, splitOn, if_neg (Ne.symm h.1), hlonger]
    rfl

/-- Characters behind belong to the last piece. -/
theorem splitOn_append_right (h : separator ∉ after) (cs : List Char) :
    ∃ front last, splitOn separator cs = front ++ [last] ∧ splitOn separator (cs ++ after) = front ++ [last ++ after] := by
  induction cs with
  | nil => exact ⟨[], [], rfl, splitOn_of_not_mem h⟩
  | cons c cs ih =>
    obtain ⟨front, last, hpieces, hlonger⟩ := ih
    rw [List.cons_append, splitOn, splitOn, hpieces, hlonger]
    by_cases hc : c = separator
    · exact ⟨[] :: front, last, if_pos hc, if_pos hc⟩
    · rw [if_neg hc, if_neg hc]
      cases front with
      | nil => exact ⟨[], c :: last, rfl, rfl⟩
      | cons first front => exact ⟨(c :: first) :: front, last, rfl, rfl⟩

/-! ### Visible characters -/

theorem isBlank_eq_false {c : Char} (hlow : 0x21 ≤ c.toNat) (hhigh : c.toNat ≤ 0x7e) : isBlank c = false := by
  simp only [isBlank, Bool.or_eq_false_iff, Bool.and_eq_false_iff, decide_eq_false_iff_not, beq_eq_false_iff_ne]
  omega

theorem toNat_of_isUpper {c : Char} (h : c.isUpper) : 65 ≤ c.toNat ∧ c.toNat ≤ 90 := by
  obtain ⟨hlow, hhigh⟩ : 'A'.val ≤ c.val ∧ c.val ≤ 'Z'.val := of_decide_eq_true h
  exact ⟨UInt32.le_iff_toNat_le.1 hlow, UInt32.le_iff_toNat_le.1 hhigh⟩

theorem toNat_of_isLower {c : Char} (h : c.isLower) : 97 ≤ c.toNat ∧ c.toNat ≤ 122 := by
  obtain ⟨hlow, hhigh⟩ := Bool.and_eq_true_iff.1 h
  exact ⟨UInt32.le_iff_toNat_le.1 (of_decide_eq_true hlow), UInt32.le_iff_toNat_le.1 (of_decide_eq_true hhigh)⟩

theorem toNat_of_isDigit {c : Char} (h : c.isDigit) : 48 ≤ c.toNat ∧ c.toNat ≤ 57 := by
  obtain ⟨hlow, hhigh⟩ := Bool.and_eq_true_iff.1 h
  exact ⟨UInt32.le_iff_toNat_le.1 (of_decide_eq_true hlow), UInt32.le_iff_toNat_le.1 (of_decide_eq_true hhigh)⟩

theorem toNat_of_isAlphanum {c : Char} (h : c.isAlphanum) : 48 ≤ c.toNat ∧ c.toNat ≤ 122 := by
  have hclass : ((c.isUpper || c.isLower) || c.isDigit) = true := h
  rw [Bool.or_eq_true, Bool.or_eq_true] at hclass
  rcases hclass with (hupper | hlower) | hdigit
  · have hbounds := toNat_of_isUpper hupper
    omega
  · have hbounds := toNat_of_isLower hlower
    omega
  · have hbounds := toNat_of_isDigit hdigit
    omega

theorem isBlank_of_isAlphanum {c : Char} (h : c.isAlphanum) : isBlank c = false := by
  have hbounds := toNat_of_isAlphanum h
  exact isBlank_eq_false (by omega) (by omega)

/-! ### Trimmed -/

theorem not_mem_of_blank {c : Char} (hvisible : isBlank c = false) (h : ∀ d ∈ cs, isBlank d) : c ∉ cs := by
  intro hmem
  rw [h c hmem] at hvisible
  cases hvisible

theorem not_blank_of_visible {text : String} (h : ∃ c ∈ text.toList, isBlank c = false) : ¬ blank text := by
  obtain ⟨c, hc, hvisible⟩ := h
  exact fun hblank => not_mem_of_blank hvisible (List.all_eq_true.1 hblank) hc

theorem trimChars_append_left (h : ∀ c ∈ before, isBlank c) (cs : List Char) : trimChars (before ++ cs) = trimChars cs := by
  rw [trimChars, trimChars, List.dropWhile_append_of_pos h]

/-- A text without the white space behind it. -/
def trimEnd (cs : List Char) : List Char := (cs.reverse.dropWhile isBlank).reverse

theorem trimEnd_dropWhile (cs : List Char) : trimEnd (cs.dropWhile isBlank) = trimChars cs := rfl

theorem trimEnd_append_of_blank (h : ∀ c ∈ after, isBlank c) (cs : List Char) : trimEnd (cs ++ after) = trimEnd cs := by
  have hreverse : ∀ c ∈ after.reverse, isBlank c := fun c hc => h c (List.mem_reverse.1 hc)
  rw [trimEnd, List.reverse_append, List.dropWhile_append_of_pos hreverse, trimEnd]

theorem trimChars_append_right (h : ∀ c ∈ after, isBlank c) (cs : List Char) : trimChars (cs ++ after) = trimChars cs := by
  rw [← trimEnd_dropWhile, ← trimEnd_dropWhile, List.dropWhile_append]
  by_cases hempty : (cs.dropWhile isBlank).isEmpty
  · rw [if_pos hempty, List.dropWhile_eq_nil_iff.2 h, List.isEmpty_iff.1 hempty]
  · rw [if_neg hempty, trimEnd_append_of_blank h]

theorem dropWhile_append_of_visible (h : ∃ c ∈ before, isBlank c = false) (after : List Char) :
    (before ++ after).dropWhile isBlank = before.dropWhile isBlank ++ after := by
  obtain ⟨c, hc, hvisible⟩ := h
  have hrest : ¬ (before.dropWhile isBlank).isEmpty := fun hempty => by
    rw [List.dropWhile_eq_nil_iff.1 (List.isEmpty_iff.1 hempty) c hc] at hvisible
    cases hvisible
  rw [List.dropWhile_append, if_neg hrest]

theorem trimEnd_append_of_visible (before : List Char) (h : ∃ c ∈ after, isBlank c = false) :
    trimEnd (before ++ after) = before ++ trimEnd after := by
  obtain ⟨c, hc, hvisible⟩ := h
  rw [trimEnd, List.reverse_append, dropWhile_append_of_visible ⟨c, List.mem_reverse.2 hc, hvisible⟩, List.reverse_append,
    List.reverse_reverse, trimEnd]

theorem dropWhile_eq_self (h : ∀ c ∈ cs.head?, isBlank c = false) : cs.dropWhile isBlank = cs := by
  cases cs with
  | nil => rfl
  | cons c cs => exact List.dropWhile_cons_of_neg (by simp [h c rfl])

theorem trimEnd_eq_self (h : ∀ c ∈ cs.getLast?, isBlank c = false) : trimEnd cs = cs := by
  rw [trimEnd, dropWhile_eq_self (by rwa [List.head?_reverse]), List.reverse_reverse]

/-- Between visible characters nothing is taken away. -/
theorem trimChars_eq_self_of_ends (hhead : ∀ c ∈ cs.head?, isBlank c = false)
    (hlast : ∀ c ∈ cs.getLast?, isBlank c = false) : trimChars cs = cs := by
  rw [← trimEnd_dropWhile, dropWhile_eq_self hhead, trimEnd_eq_self hlast]

theorem trimChars_eq_self (h : ∀ c ∈ cs, isBlank c = false) : trimChars cs = cs :=
  trimChars_eq_self_of_ends (fun c hc => h c (List.mem_of_mem_head? hc)) fun c hc => h c (List.mem_of_getLast? hc)

theorem exists_trimChars (cs : List Char) :
    ∃ before after, (∀ c ∈ before, isBlank c) ∧ (∀ c ∈ after, isBlank c) ∧ cs = before ++ (trimChars cs ++ after) := by
  refine ⟨cs.takeWhile isBlank, ((cs.dropWhile isBlank).reverse.takeWhile isBlank).reverse, ?front, ?back, ?whole⟩
  case front => exact fun c => List.mem_takeWhile_imp
  case back => exact fun c hc => List.mem_takeWhile_imp (List.mem_reverse.1 hc)
  case whole =>
    rw [trimChars, ← List.reverse_append, List.takeWhile_append_dropWhile, List.reverse_reverse,
      List.takeWhile_append_dropWhile]

/-- A trimmed text with something in it ends with a visible character. -/
theorem exists_trimChars_concat (h : trimChars cs ≠ []) :
    ∃ front last, trimChars cs = front ++ [last] ∧ isBlank last = false := by
  have hdrop : (cs.dropWhile isBlank).reverse.dropWhile isBlank ≠ [] := fun hnil => h (by rw [trimChars, hnil]; rfl)
  obtain ⟨last, front, hlast⟩ := List.exists_cons_of_ne_nil hdrop
  have hvisible := List.head_dropWhile_not isBlank hdrop
  simp only [hlast, List.head_cons] at hvisible
  exact ⟨front.reverse, last, by rw [trimChars, hlast, List.reverse_cons], hvisible⟩

theorem mem_of_mem_trimChars {c : Char} (h : c ∈ trimChars cs) : c ∈ cs := by
  obtain ⟨before, after, -, -, hcs⟩ := exists_trimChars cs
  rw [hcs]
  exact List.mem_append_right before (List.mem_append_left after h)

theorem trimChars_eq_nil_iff : trimChars cs = [] ↔ cs.all isBlank := by
  rw [List.all_eq_true]
  constructor
  · intro h c hc
    obtain ⟨before, after, hbefore, hafter, hcs⟩ := exists_trimChars cs
    rw [h, List.nil_append] at hcs
    rw [hcs, List.mem_append] at hc
    exact hc.elim (hbefore c) (hafter c)
  · intro h
    rw [trimChars, List.dropWhile_eq_nil_iff.2 h]
    rfl

/-- Trimming leaves something visible of what is not blank. -/
@[simp] theorem blank_trim (text : String) : blank (trim text) = blank text := by
  rw [Bool.eq_iff_iff, blank, blank, trim, String.toList_ofList]
  constructor
  · intro hall
    by_contra hnot
    obtain ⟨front, last, htrim, hvisible⟩ := exists_trimChars_concat fun hnil => hnot (trimChars_eq_nil_iff.1 hnil)
    rw [htrim] at hall
    exact not_mem_of_blank hvisible (List.all_eq_true.1 hall) (List.mem_append_right front (List.mem_singleton_self last))
  · intro hall
    rw [trimChars_eq_nil_iff.2 hall]
    rfl

/-- A text and the trimmed text have the same trimmed pieces. -/
theorem map_trimChars_splitOn (hvisible : isBlank separator = false) (cs : List Char) :
    (splitOn separator (trimChars cs)).map trimChars = (splitOn separator cs).map trimChars := by
  obtain ⟨before, after, hbefore, hafter, hcs⟩ := exists_trimChars cs
  obtain ⟨front, last, hpieces, hlonger⟩ := splitOn_append_right (not_mem_of_blank hvisible hafter) (trimChars cs)
  obtain ⟨first, rest, hinner, houter⟩ := splitOn_append_left (not_mem_of_blank hvisible hbefore) (trimChars cs ++ after)
  rw [← hcs] at houter
  rw [houter, List.map_cons, trimChars_append_left hbefore, ← List.map_cons, ← hinner, hlonger, hpieces,
    List.map_append, List.map_append, List.map_singleton, List.map_singleton, trimChars_append_right hafter]

end ChainClient.Text
