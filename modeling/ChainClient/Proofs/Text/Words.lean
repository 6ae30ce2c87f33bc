import ChainClient.Proofs.Text.Pieces

/-!
# Words and lines

The words of a text are the filled pieces between its blank characters, so that white space around a text makes no difference to them. The lines of a trimmed text have the words of its pieces between line feeds: a carriage return at a line end is blank, and after a visible character there is no empty piece that a line feed leaves behind.
-/

namespace ChainClient.Text

variable {cs before after : List Char}

/-- The filled pieces between the blank characters. -/
def fields (cs : List Char) : List (List Char) := (cs.splitOnP isBlank).filter fun piece => !piece.isEmpty

/-! ### Fields -/

theorem fields_append_cons {c : Char} (h : isBlank c) (before after : List Char) :
    fields (before ++ c :: after) = fields before ++ fields after := by
  rw [fields, List.splitOnP_append_cons before after h, List.filter_append]
  rfl

theorem fields_of_visible (hfilled : cs ≠ []) (h : ∀ c ∈ cs, isBlank c = false) : fields cs = [cs] := by
  rw [fields, List.splitOnP_eq_singleton h]
  simp [hfilled]

theorem fields_of_blank (h : ∀ c ∈ cs, isBlank c) : fields cs = [] := by
  induction cs with
  | nil => rfl
  | cons c cs ih =>
    obtain ⟨hc, hcs⟩ := List.forall_mem_cons.1 h
    rw [← List.nil_append (c :: cs), fields_append_cons hc, ih hcs]
    rfl

theorem fields_append_left (h : ∀ c ∈ before, isBlank c) (cs : List Char) : fields (before ++ cs) = fields cs := by
  induction before with
  | nil => rfl
  | cons c before ih =>
    obtain ⟨hc, hbefore⟩ := List.forall_mem_cons.1 h
    rw [← List.nil_append (c :: before ++ cs), List.cons_append, fields_append_cons hc, ih hbefore]
    rfl

theorem fields_append_right (h : ∀ c ∈ after, isBlank c) (cs : List Char) : fields (cs ++ after) = fields cs := by
  cases after with
  | nil => rw [List.append_nil]
  | cons c after =>
    obtain ⟨hc, hafter⟩ := List.forall_mem_cons.1 h
    rw [fields_append_cons hc, fields_of_blank hafter, List.append_nil]

/-- Two words with white space around them. -/
theorem fields_pair {front first gap second back : List Char} (hfront : ∀ c ∈ front, isBlank c)
    (hfirst : ∀ c ∈ first, isBlank c = false) (hgap : ∀ c ∈ gap, isBlank c) (hsecond : ∀ c ∈ second, isBlank c = false)
    (hback : ∀ c ∈ back, isBlank c) (hfilled : first ≠ [] ∧ gap ≠ [] ∧ second ≠ []) :
    fields (front ++ (first ++ (gap ++ (second ++ back)))) = [first, second] := by
  obtain ⟨c, gap, rfl⟩ := List.exists_cons_of_ne_nil hfilled.2.1
  obtain ⟨hc, hgap⟩ := List.forall_mem_cons.1 hgap
  rw [fields_append_left hfront, List.cons_append, fields_append_cons hc, fields_append_left hgap,
    fields_append_right hback, fields_of_visible hfilled.1 hfirst, fields_of_visible hfilled.2.2 hsecond]
  rfl

theorem visible_of_mem_splitOnP {piece : List Char} (h : piece ∈ cs.splitOnP isBlank) : ∀ c ∈ piece, isBlank c = false := by
  induction cs generalizing piece with
  | nil =>
    rw [List.splitOnP_nil, List.mem_singleton] at h
    exact h ▸ List.forall_mem_nil _
  | cons d cs ih =>
    obtain ⟨first, rest, hpieces⟩ := List.exists_cons_of_ne_nil (List.splitOnP_ne_nil isBlank cs)
    rw [List.splitOnP_cons_eq_if_modifyHead] at h
    rw [hpieces] at h ih
    by_cases hd : isBlank d
    · rw [if_pos hd] at h
      rcases List.mem_cons.1 h with rfl | hmem
      · exact List.forall_mem_nil _
      · exact ih hmem
    · rw [if_neg hd, List.modifyHead_cons] at h
      rcases List.mem_cons.1 h with rfl | hmem
      · exact List.forall_mem_cons.2 ⟨Bool.eq_false_iff.2 hd, ih List.mem_cons_self⟩
      · exact ih (List.mem_cons_of_mem first hmem)

/-- A field is filled and has no blank in it. -/
theorem visible_of_mem_fields {field : List Char} (h : field ∈ fields cs) : field ≠ [] ∧ ∀ c ∈ field, isBlank c = false := by
  obtain ⟨hmem, hfilled⟩ := List.mem_filter.1 h
  exact ⟨by simpa using hfilled, visible_of_mem_splitOnP hmem⟩

/-! ### Words -/

/-- A run that the text continues, once the text or a blank ends it. -/
theorem ended_run {run : List Char} (hrun : ∀ c ∈ run, isBlank c = false) :
    (if run.isEmpty then [] else [run.reverse]) = fields run.reverse := by
  cases run with
  | nil => rfl
  | cons c run => exact (fields_of_visible (by simp) fun d hd => hrun d (List.mem_reverse.1 hd)).symm

theorem wordsFrom_eq {run : List Char} (hrun : ∀ c ∈ run, isBlank c = false) (cs : List Char) :
    wordsFrom run cs = fields (run.reverse ++ cs) := by
  induction cs generalizing run with
  | nil => rw [wordsFrom, List.append_nil, ended_run hrun]
  | cons c cs ih =>
    rw [wordsFrom]
    by_cases hc : isBlank c
    · rw [if_pos hc, fields_append_cons hc, ih (List.forall_mem_nil _), ← ended_run hrun]
      cases run <;> rfl
    · have hlonger : ∀ d ∈ c :: run, isBlank d = false := List.forall_mem_cons.2 ⟨Bool.eq_false_iff.2 hc, hrun⟩
      rw [if_neg hc, ih hlonger, List.reverse_cons, List.append_assoc]
      rfl

theorem words_eq_fields (cs : List Char) : words cs = fields cs := wordsFrom_eq (List.forall_mem_nil _) cs

/-! ### Rows -/

/-- A word stays where it is when the white space behind it goes. -/
theorem trimEnd_append_right {word back : List Char} (hword : ∀ c ∈ word, isBlank c = false) (hback : ∀ c ∈ back, isBlank c) :
    trimEnd (word ++ back) = word := by
  rw [trimEnd_append_of_blank hback, trimEnd_eq_self fun c hc => hword c (List.mem_of_getLast? hc)]

/-- What stands between line feeds and visible characters is a piece of the trimmed text. -/
theorem mem_splitOn_trimChars {gap : List Char} (hbefore : ∃ c ∈ before, isBlank c = false)
    (hafter : ∃ c ∈ after, isBlank c = false) (hgap : '\n' ∉ gap) :
    gap ∈ splitOn '\n' (trimChars (before ++ '\n' :: (gap ++ '\n' :: after))) := by
  have hback := trimEnd_append_of_visible (before.dropWhile isBlank ++ '\n' :: (gap ++ ['\n'])) hafter
  have hwhole : before.dropWhile isBlank ++ '\n' :: (gap ++ '\n' :: after) =
      before.dropWhile isBlank ++ '\n' :: (gap ++ ['\n']) ++ after := by simp
  rw [← trimEnd_dropWhile, dropWhile_append_of_visible hbefore, hwhole, hback]
  have hcut : before.dropWhile isBlank ++ '\n' :: (gap ++ ['\n']) ++ trimEnd after =
      before.dropWhile isBlank ++ '\n' :: (gap ++ '\n' :: trimEnd after) := by simp
  rw [hcut, splitOn_append_cons, splitOn_append_cons, splitOn_of_not_mem hgap]
  exact List.mem_append_right _ List.mem_cons_self

/-! ### Lines -/

theorem fields_dropReturn (line : List Char) : fields (dropReturn line) = fields line := by
  rw [dropReturn]
  by_cases h : line.getLast? = some '\r'
  · obtain ⟨front, rfl⟩ := List.getLast?_eq_some_iff.1 h
    rw [if_pos h, List.dropLast_concat, fields_append_right (List.forall_mem_singleton.2 (by decide))]
  · rw [if_neg h]

/-- Line by line, a trimmed text has the fields of its pieces between line feeds. -/
theorem map_fields_lines (h : trimChars cs ≠ []) :
    (lines (trimChars cs)).map fields = (splitOn '\n' (trimChars cs)).map fields := by
  obtain ⟨front, last, htrim, hlast⟩ := exists_trimChars_concat h
  have hfeed : '\n' ∉ [last] := by
    rw [List.mem_singleton]
    rintro rfl
    cases hlast
  obtain ⟨ended, piece, -, hpieces⟩ := splitOn_append_right hfeed front
  -- The last piece ends with the visible character, so it is not dropped for being empty.
  have hfilled : piece ++ [last] ≠ [] := by simp
  obtain ⟨c, rest, hpiece⟩ := List.exists_cons_of_ne_nil hfilled
  rw [lines, htrim, hpieces]
  simp only [List.dropLast_concat, List.getLast?_concat, hpiece, List.map_append, List.map_map]
  rw [show fields ∘ dropReturn = fields from funext fields_dropReturn]

end ChainClient.Text
