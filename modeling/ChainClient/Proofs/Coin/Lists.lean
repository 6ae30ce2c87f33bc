import Mathlib.Data.List.Perm.Basic
import Mathlib.Data.String.Basic
import ChainClient.Proofs.Coin.Text
import ChainClient.Proofs.Text.Pieces
import ChainClient.Proofs.Text.Utf8

/-!
# Coin lists

A coin list is canonical: what is read from it ascends strictly by the bytes of the denominations, however the text arranges the coins. Sorting brings equal denominations side by side, so looking at neighbours finds every duplicate, and a list without duplicates has one ascending arrangement only. A piece is read as the trimmed piece is, so trimming the whole text makes no difference to its coins.
-/

namespace ChainClient

namespace Coin

/-! ### Sorting -/

/-- The denominations ascend strictly. -/
def Ascending (coins : List Coin) : Prop := coins.Pairwise fun left right => left.denom < right.denom

theorem Ascending.nodup {coins : List Coin} (h : Ascending coins) : (coins.map denom).Nodup :=
  (List.pairwise_map.2 h).imp fun hlt => hlt.ne

/-- Two ascending arrangements of the same coins are one. -/
theorem Ascending.eq_of_perm {left right : List Coin} (hleft : Ascending left) (hright : Ascending right)
    (h : left.Perm right) : left = right :=
  h.eq_of_pairwise (fun _ _ _ _ hab hba => absurd hba hab.asymm) hleft hright

theorem insert_perm (coin : Coin) (coins : List Coin) : (insert coin coins).Perm (coin :: coins) := by
  induction coins with
  | nil => exact .refl _
  | cons head tail ih =>
    rw [insert]
    by_cases h : coin.denom < head.denom
    · rw [if_pos h]
    · rw [if_neg h]
      exact (ih.cons head).trans (.swap coin head tail)

theorem pairwise_insert {coin : Coin} {coins : List Coin}
    (h : coins.Pairwise fun left right => left.denom ≤ right.denom) :
    (insert coin coins).Pairwise fun left right => left.denom ≤ right.denom := by
  induction coins with
  | nil => exact List.pairwise_singleton _ _
  | cons head tail ih =>
    obtain ⟨hhead, htail⟩ := List.pairwise_cons.1 h
    rw [insert]
    by_cases hlt : coin.denom < head.denom
    · rw [if_pos hlt]
      exact h.cons (List.forall_mem_cons.2 ⟨hlt.le, fun other hother => hlt.le.trans (hhead other hother)⟩)
    · rw [if_neg hlt]
      refine (ih htail).cons fun other hother => ?_
      rcases List.mem_cons.1 ((insert_perm coin tail).mem_iff.1 hother) with rfl | hmem
      · exact le_of_not_gt hlt
      · exact hhead other hmem

private theorem foldl_insert_perm (coins sorted : List Coin) :
    (coins.foldl (fun sorted coin => insert coin sorted) sorted).Perm (coins ++ sorted) := by
  induction coins generalizing sorted with
  | nil => exact .refl _
  | cons coin coins ih => exact (ih _).trans (((insert_perm coin sorted).append_left coins).trans List.perm_middle)

theorem sort_perm (coins : List Coin) : (sort coins).Perm coins := by
  have h := foldl_insert_perm coins []
  rwa [List.append_nil] at h

theorem pairwise_sort (coins : List Coin) : (sort coins).Pairwise fun left right => left.denom ≤ right.denom := by
  have hrun : ∀ sorted : List Coin, sorted.Pairwise (fun left right => left.denom ≤ right.denom) →
      (coins.foldl (fun sorted coin => insert coin sorted) sorted).Pairwise fun left right => left.denom ≤ right.denom := by
    induction coins with
    | nil => exact fun _ h => h
    | cons coin coins ih => exact fun sorted h => ih _ (pairwise_insert h)
  exact hrun [] .nil

/-- Among coins in order, neighbours tell whether a denomination repeats. -/
theorem duplicate?_eq_none_iff {coins : List Coin} (h : coins.Pairwise fun left right => left.denom ≤ right.denom) :
    duplicate? coins = none ↔ Ascending coins := by
  induction coins with
  | nil => exact iff_of_true rfl .nil
  | cons first rest ih =>
    obtain ⟨hfirst, hrest⟩ := List.pairwise_cons.1 h
    cases rest with
    | nil => exact iff_of_true rfl (List.pairwise_singleton _ _)
    | cons second rest =>
      rw [duplicate?]
      by_cases heq : first.denom = second.denom
      · rw [if_pos heq]
        refine iff_of_false nofun fun hascending => ?_
        exact ((List.pairwise_cons.1 hascending).1 second List.mem_cons_self).ne heq
      · rw [if_neg heq, ih hrest]
        refine ⟨fun hascending => List.pairwise_cons.2 ⟨?_, hascending⟩, fun hascending => (List.pairwise_cons.1 hascending).2⟩
        have hlt : first.denom < second.denom := lt_of_le_of_ne (hfirst second List.mem_cons_self) heq
        refine List.forall_mem_cons.2 ⟨hlt, fun other hother => ?_⟩
        exact hlt.trans ((List.pairwise_cons.1 hascending).1 other hother)

theorem ascending_sort_iff {coins : List Coin} : Ascending (sort coins) ↔ (coins.map denom).Nodup := by
  have hperm : ((sort coins).map denom).Perm (coins.map denom) := (sort_perm coins).map denom
  refine ⟨fun h => hperm.nodup_iff.1 h.nodup, fun h => ?_⟩
  have hne : (sort coins).Pairwise fun left right => left.denom ≠ right.denom :=
    List.pairwise_map.1 (hperm.nodup_iff.2 h)
  exact ((pairwise_sort coins).and hne).imp fun hboth => lt_of_le_of_ne hboth.1 hboth.2

/-- Sorting and looking for a duplicate succeed with the ascending arrangement, where there is one. -/
theorem sorted_eq_ok_iff {read coins : List Coin} :
    (match duplicate? (sort read) with
      | some denom => throw (.duplicateDenom denom)
      | none => return sort read : Except ValueError (List Coin)) = .ok coins ↔ coins.Perm read ∧ Ascending coins := by
  cases hduplicate : duplicate? (sort read) with
  | some denom =>
    refine iff_of_false nofun fun ⟨hperm, hascending⟩ => ?_
    have hsorted : Ascending (sort read) := ascending_sort_iff.2 ((hperm.map Coin.denom).nodup_iff.1 hascending.nodup)
    rw [(duplicate?_eq_none_iff (pairwise_sort read)).2 hsorted] at hduplicate
    cases hduplicate
  | none =>
    have hsorted : Ascending (sort read) := (duplicate?_eq_none_iff (pairwise_sort read)).1 hduplicate
    refine ⟨fun heq => Except.ok.inj heq ▸ ⟨sort_perm read, hsorted⟩, fun ⟨hperm, hascending⟩ => ?_⟩
    exact congrArg Except.ok (hsorted.eq_of_perm hascending ((sort_perm read).trans hperm.symm))

/-! ### Reading -/

/-- The texts between the commas. -/
def pieces (text : String) : List String := (Text.splitOn ',' text.toList).map String.ofList

theorem toList_intercalate_comma (texts : List String) :
    (String.intercalate "," texts).toList = [','].intercalate (texts.map String.toList) := by
  rw [String.toList_intercalate]
  rfl

theorem pieces_intercalate {texts : List String} (hnone : ∀ text ∈ texts, ',' ∉ text.toList) (hne : texts ≠ []) :
    pieces (String.intercalate "," texts) = texts := by
  have hlists : ∀ piece ∈ texts.map String.toList, ',' ∉ piece := List.forall_mem_map.2 hnone
  rw [pieces, toList_intercalate_comma, Text.splitOn_intercalate hlists (by simpa using hne), List.map_map]
  exact List.map_id'' (fun text => String.ofList_toList) texts

theorem intercalate_pieces (text : String) : String.intercalate "," (pieces text) = text := by
  have hlists : (Text.splitOn ',' text.toList).map (String.toList ∘ String.ofList) = Text.splitOn ',' text.toList :=
    List.map_id'' (fun piece => String.toList_ofList) _
  apply String.toList_injective
  rw [toList_intercalate_comma, pieces, List.map_map, hlists, Text.intercalate_splitOn]

theorem pieces_of_blank {text : String} (h : Text.blank text) : pieces text = [text] := by
  have hcomma : ',' ∉ text.toList := Text.not_mem_of_blank (by decide) (List.all_eq_true.1 h)
  rw [pieces, Text.splitOn_of_not_mem hcomma, List.map_singleton, String.ofList_toList]

/-- What a text is read as depends on the trimmed text only. -/
theorem parse_congr {left right : String} (h : Text.trimChars left.toList = Text.trimChars right.toList) :
    parse left = parse right := by
  simp only [parse, h]

theorem mapM_parse_congr {left right : List (List Char)} (h : left.map Text.trimChars = right.map Text.trimChars) :
    left.mapM (fun piece => parse (String.ofList piece)) = right.mapM fun piece => parse (String.ofList piece) := by
  induction left generalizing right with
  | nil => rw [List.map_eq_nil_iff.1 h.symm]
  | cons piece left ih =>
    obtain ⟨other, rest, rfl, hpiece, hrest⟩ := List.map_eq_cons_iff.1 h.symm
    have hparse : parse (String.ofList piece) = parse (String.ofList other) :=
      parse_congr (by rw [String.toList_ofList, String.toList_ofList, hpiece])
    rw [List.mapM_cons, List.mapM_cons, hparse, ih hrest.symm]

/-- The coins that the pieces of a text are read as, in the order of the pieces. -/
def ReadFrom (text : String) (coins : List Coin) : Prop :=
  List.Forall₂ (fun piece coin => parse piece = .ok coin) (pieces text) coins

theorem mapM_parse_trimmed {text : String} {coins : List Coin} :
    (Text.splitOn ',' (Text.trimChars text.toList)).mapM (fun piece => parse (String.ofList piece)) = .ok coins ↔
      ReadFrom text coins := by
  rw [mapM_parse_congr (Text.map_trimChars_splitOn (by decide) text.toList), mapM_eq_ok_iff, ReadFrom, pieces,
    List.forall₂_map_left_iff]

theorem parseList_of_blank {text : String} (h : Text.blank text) : parseList text = .ok [] := by
  rw [parseList, Text.trimChars_eq_nil_iff.2 h]
  rfl

/-- What a text that is not blank is read as. -/
theorem parseList_eq_ok_iff {text : String} (h : ¬ Text.blank text) {coins : List Coin} :
    parseList text = .ok coins ↔ ∃ read, ReadFrom text read ∧ coins.Perm read ∧ Ascending coins := by
  have hnonempty : ¬ (Text.trimChars text.toList).isEmpty := fun hempty =>
    h (Text.trimChars_eq_nil_iff.1 (List.isEmpty_iff.1 hempty))
  unfold parseList
  simp only [if_neg hnonempty]
  rw [bind_eq_ok]
  simp only [mapM_parse_trimmed]
  exact exists_congr fun read => and_congr_right fun _ => sorted_eq_ok_iff

/-- The coins are what single pieces are read as. -/
theorem ReadFrom.mem_iff {text : String} {coins : List Coin} (h : ReadFrom text coins) {coin : Coin} :
    coin ∈ coins ↔ ∃ piece ∈ pieces text, parse piece = .ok coin := by
  rw [ReadFrom] at h
  generalize pieces text = texts at h
  induction h with
  | nil => exact iff_of_false List.not_mem_nil fun ⟨_, hpiece, _⟩ => absurd hpiece List.not_mem_nil
  | cons hparse _ ih =>
    rw [List.mem_cons, ih, List.exists_mem_cons_iff, hparse, Except.ok.injEq, eq_comm]

theorem ReadFrom.validDenom {text : String} {coins : List Coin} (h : ReadFrom text coins) :
    ∀ coin ∈ coins, validDenom coin.denom.toList := by
  intro coin hcoin
  obtain ⟨piece, -, hparse⟩ := h.mem_iff.1 hcoin
  exact validDenom_of_parse hparse

/-- What a list holds, whatever its text. -/
theorem readFrom_of_parseList {text : String} {coins : List Coin} (h : parseList text = .ok coins) :
    coins = [] ∨ ∃ read, ReadFrom text read ∧ coins.Perm read ∧ Ascending coins := by
  by_cases hblank : Text.blank text
  · exact .inl (Except.ok.inj (h.symm.trans (parseList_of_blank hblank)))
  · exact .inr ((parseList_eq_ok_iff hblank).1 h)

theorem ascending_of_parseList {text : String} {coins : List Coin} (h : parseList text = .ok coins) : Ascending coins := by
  rcases readFrom_of_parseList h with rfl | ⟨read, -, -, hascending⟩
  · exact .nil
  · exact hascending

theorem validDenom_of_parseList {text : String} {coins : List Coin} (h : parseList text = .ok coins) :
    ∀ coin ∈ coins, validDenom coin.denom.toList := by
  rcases readFrom_of_parseList h with rfl | ⟨read, hread, hperm, -⟩
  · exact nofun
  · exact fun coin hcoin => hread.validDenom coin (hperm.mem_iff.1 hcoin)

theorem exists_readFrom_iff {text : String} :
    (∃ read, ReadFrom text read) ↔ ∀ piece ∈ pieces text, ∃ coin, parse piece = .ok coin := exists_forall₂_iff

/-- Two texts that are not coins of one denomination. -/
def Apart (left right : String) : Prop :=
  ∀ c d, parse left = .ok c → parse right = .ok d → c.denom ≠ d.denom

theorem apart_iff {left right : String} {c d : Coin} (hleft : parse left = .ok c) (hright : parse right = .ok d) :
    Apart left right ↔ c.denom ≠ d.denom := by
  refine ⟨fun h => h c d hleft hright, fun hne e f he hf => ?_⟩
  obtain rfl := Except.ok.inj (hleft.symm.trans he)
  obtain rfl := Except.ok.inj (hright.symm.trans hf)
  exact hne

theorem ReadFrom.nodup_iff {text : String} {coins : List Coin} (h : ReadFrom text coins) :
    (coins.map denom).Nodup ↔ (pieces text).Pairwise Apart :=
  List.pairwise_map.trans (pairwise_iff_of_forall₂ (rightUnique_eq_ok parse) h)

/-- Rearranged pieces are read as the same coins, rearranged. -/
theorem ReadFrom.of_perm {left right : String} {coins : List Coin} (h : ReadFrom left coins)
    (hpieces : (pieces right).Perm (pieces left)) : ∃ read, ReadFrom right read ∧ read.Perm coins := by
  have hcomp : Relation.Comp List.Perm (List.Forall₂ fun piece coin => parse piece = .ok coin) (pieces right) coins :=
    ⟨pieces left, hpieces, h⟩
  rw [← List.forall₂_comp_perm_eq_perm_comp_forall₂] at hcomp
  exact hcomp

/-! ### Writing -/

theorem comma_not_mem_text {coin : Coin} (h : validDenom coin.denom.toList) : ',' ∉ coin.text.toList := by
  intro hcomma
  rw [toList_text, List.mem_append] at hcomma
  rcases hcomma with hamount | hdenom
  · exact absurd (Decimal.isAmountChar_of_mem_chars hamount) (by decide)
  · obtain ⟨-, -, -, -, hall⟩ := of_validDenom h
    exact absurd (hall ',' hdenom) (by decide)

theorem readFrom_intercalate {coins : List Coin} (hvalid : ∀ coin ∈ coins, validDenom coin.denom.toList)
    (hne : coins ≠ []) : ReadFrom (String.intercalate "," (coins.map text)) coins := by
  have hnone : ∀ piece ∈ coins.map text, ',' ∉ piece.toList :=
    List.forall_mem_map.2 fun coin hcoin => comma_not_mem_text (hvalid coin hcoin)
  rw [ReadFrom, pieces_intercalate hnone (by simpa using hne), List.forall₂_map_left_iff, List.forall₂_same]
  exact fun coin hcoin => parse_text_of_validDenom (hvalid coin hcoin)

theorem visible_text {coin : Coin} (h : validDenom coin.denom.toList) : ∀ c ∈ coin.text.toList, Text.isBlank c = false := by
  obtain ⟨-, -, -, -, hdenom⟩ := of_validDenom h
  rw [toList_text]
  exact List.forall_mem_append.2 ⟨fun c hc => isBlank_of_isAmountChar (Decimal.isAmountChar_of_mem_chars hc),
    fun c hc => isBlank_of_isDenomChar (hdenom c hc)⟩

theorem not_blank_of_readFrom {text : String} {coins : List Coin} (h : ReadFrom text coins) : ¬ Text.blank text := by
  intro hblank
  have hread := mapM_parse_trimmed.2 h
  rw [Text.trimChars_eq_nil_iff.2 hblank] at hread
  cases hread

/-- A text that is not blank holds a coin at least. -/
theorem ne_nil_of_parseList {text : String} (h : ¬ Text.blank text) {coins : List Coin} (hcoins : parseList text = .ok coins) :
    coins ≠ [] := by
  obtain ⟨read, hread, hperm, -⟩ := (parseList_eq_ok_iff h).1 hcoins
  rintro rfl
  rw [ReadFrom, List.nil_perm.1 hperm, List.forall₂_nil_right_iff, pieces, List.map_eq_nil_iff] at hread
  exact Text.splitOn_ne_nil ',' text.toList hread

theorem parseList_of_perm {left right : String} (hpieces : (pieces right).Perm (pieces left)) {coins : List Coin}
    (h : parseList left = .ok coins) : parseList right = .ok coins := by
  by_cases hblank : Text.blank left
  · -- A blank text is its only piece, so nothing was rearranged.
    rw [pieces_of_blank hblank, List.perm_singleton] at hpieces
    have hsame : right = left := by
      rw [← intercalate_pieces right, hpieces]
      rfl
    rwa [hsame]
  · obtain ⟨read, hread, hperm, hascending⟩ := (parseList_eq_ok_iff hblank).1 h
    obtain ⟨moved, hmoved, hback⟩ := hread.of_perm hpieces
    exact (parseList_eq_ok_iff (not_blank_of_readFrom hmoved)).2 ⟨moved, hmoved, hperm.trans hback.symm, hascending⟩

theorem parseList_intercalate {coins : List Coin} (hascending : Ascending coins)
    (hvalid : ∀ coin ∈ coins, validDenom coin.denom.toList) :
    parseList (String.intercalate "," (coins.map text)) = .ok coins := by
  cases coins with
  | nil => rfl
  | cons coin coins =>
    have hread := readFrom_intercalate hvalid (List.cons_ne_nil coin coins)
    exact (parseList_eq_ok_iff (not_blank_of_readFrom hread)).2 ⟨_, hread, .refl _, hascending⟩

/-- The written list is one word. -/
theorem visible_intercalate {coins : List Coin} (hvalid : ∀ coin ∈ coins, validDenom coin.denom.toList) (hne : coins ≠ []) :
    (String.intercalate "," (coins.map text)).toList ≠ [] ∧
      ∀ c ∈ (String.intercalate "," (coins.map text)).toList, Text.isBlank c = false := by
  refine ⟨fun hempty => not_blank_of_readFrom (readFrom_intercalate hvalid hne) (by rw [Text.blank, hempty]; rfl), ?_⟩
  rw [toList_intercalate_comma, List.map_map]
  exact Text.forall_mem_intercalate (by decide) (List.forall_mem_map.2 fun coin hcoin => visible_text (hvalid coin hcoin))

/-- **Canonical lists.** An accepted list ascends strictly by the bytes of its denominations, which are all valid, and holds the coins that the pieces of the text are read as, each once. A text that is not blank is accepted exactly when all its pieces are and no two have one denomination. Texts with the same pieces in any order are read alike, and an ascending list with valid denominations is read back from its texts joined by commas. -/
theorem canonical_lists :
    (∀ text coins, parseList text = .ok coins →
      (coins.Pairwise fun left right => Bytes.ofText left.denom < Bytes.ofText right.denom) ∧
      (∀ coin ∈ coins, validDenom coin.denom.toList) ∧
      (Text.blank text → coins = []) ∧ (¬ Text.blank text → ∃ read, ReadFrom text read ∧ coins.Perm read)) ∧
    (∀ text, ¬ Text.blank text → ((∃ coins, parseList text = .ok coins) ↔
      (∀ piece ∈ pieces text, ∃ coin, parse piece = .ok coin) ∧ (pieces text).Pairwise Apart)) ∧
    (∀ left right, (pieces left).Perm (pieces right) → ∀ coins, parseList left = .ok coins ↔ parseList right = .ok coins) ∧
    ∀ coins : List Coin, (coins.Pairwise fun left right => Bytes.ofText left.denom < Bytes.ofText right.denom) →
      (∀ coin ∈ coins, validDenom coin.denom.toList) → parseList (String.intercalate "," (coins.map text)) = .ok coins := by
  simp only [Bytes.ofText_lt_iff]
  refine ⟨fun text coins h => ?accepted, fun text hblank => ?accepts, fun left right hpieces coins => ?rearranged,
    fun coins => parseList_intercalate⟩
  case accepted =>
    by_cases hblank : Text.blank text
    · obtain rfl := Except.ok.inj (h.symm.trans (parseList_of_blank hblank))
      exact ⟨.nil, nofun, fun _ => rfl, fun hnot => absurd hblank hnot⟩
    · obtain ⟨read, hread, hperm, hascending⟩ := (parseList_eq_ok_iff hblank).1 h
      exact ⟨hascending, fun coin hcoin => hread.validDenom coin (hperm.mem_iff.1 hcoin), fun hyes => absurd hyes hblank,
        fun _ => ⟨read, hread, hperm⟩⟩
  case accepts =>
    rw [← exists_readFrom_iff]
    constructor
    · rintro ⟨coins, h⟩
      obtain ⟨read, hread, hperm, hascending⟩ := (parseList_eq_ok_iff hblank).1 h
      exact ⟨⟨read, hread⟩, hread.nodup_iff.1 ((hperm.map denom).nodup_iff.1 hascending.nodup)⟩
    · rintro ⟨⟨read, hread⟩, hapart⟩
      exact ⟨sort read, (parseList_eq_ok_iff hblank).2
        ⟨read, hread, sort_perm read, ascending_sort_iff.2 (hread.nodup_iff.2 hapart)⟩⟩
  case rearranged => exact ⟨parseList_of_perm hpieces.symm, parseList_of_perm hpieces⟩

/-- A list with white space in it, its pieces the other way round, and the list as it is written. -/
theorem canonical_lists_two :
    ∃ coins, parseList "2 xxb-781, 1okt " = .ok coins ∧ parseList " 1okt ,2 xxb-781" = .ok coins ∧
      parseList (String.intercalate "," (coins.map text)) = .ok coins := by
  obtain ⟨haccepted, haccepts, hrearranged, hwritten⟩ := canonical_lists
  have hblank : ¬ Text.blank "2 xxb-781, 1okt " := by decide
  have hpieces : pieces "2 xxb-781, 1okt " = ["2 xxb-781", " 1okt "] := by decide
  have hswapped : pieces " 1okt ,2 xxb-781" = [" 1okt ", "2 xxb-781"] := by decide
  have hlarge : parse "2 xxb-781" = .ok ⟨"xxb-781", ⟨2 * 10 ^ 18⟩⟩ := by rfl
  have hsmall : parse " 1okt " = .ok ⟨"okt", ⟨10 ^ 18⟩⟩ := by rfl
  have hall : ∀ piece ∈ pieces "2 xxb-781, 1okt ", ∃ coin, parse piece = .ok coin := by
    rw [hpieces]
    exact List.forall_mem_cons.2 ⟨⟨_, hlarge⟩, List.forall_mem_singleton.2 ⟨_, hsmall⟩⟩
  have hapart : (pieces "2 xxb-781, 1okt ").Pairwise Apart := by
    rw [hpieces]
    exact List.pairwise_pair.2 ((apart_iff hlarge hsmall).2 (by decide))
  obtain ⟨coins, hcoins⟩ := (haccepts _ hblank).2 ⟨hall, hapart⟩
  obtain ⟨hascending, hvalid, -, -⟩ := haccepted _ coins hcoins
  have hmoved : (pieces "2 xxb-781, 1okt ").Perm (pieces " 1okt ,2 xxb-781") := by
    rw [hpieces, hswapped]
    exact .swap _ _ _
  exact ⟨coins, hcoins, (hrearranged _ _ hmoved coins).1 hcoins, hwritten coins hascending hvalid⟩

end Coin

end ChainClient
