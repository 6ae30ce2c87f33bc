import ChainClient.Proofs.Coin.Lists
import ChainClient.Proofs.Coin.Notation

/-!
# Coin texts as numbers

A text offers an amount of a denomination when it is the notation of the amount and the denomination, with white space around them. The reader of coins accepts these texts, as long as the denomination is valid, and nothing else, and it reads the number that the notation denotes. So each coin of a list has the number that one piece of its text offers.
-/

namespace ChainClient

open Text

namespace Decimal

/-- The text of an amount denotes its units. -/
theorem denotes_text (d : Decimal) : Denotes d.text.toList (d.units / 10 ^ 18) := by
  obtain ⟨number, hnumber, hunits⟩ := denotes_of_parse (parse_text d)
  rwa [hunits, mul_div_cancel_right₀ number (by positivity)]

theorem Denotes.ne_nil {cs : List Char} {number : ℚ} (h : Denotes cs number) : cs ≠ [] := by
  cases h with
  | whole hfilled => exact hfilled
  | point => simp

theorem Denotes.isAmountChar {cs : List Char} {number : ℚ} (h : Denotes cs number) : ∀ c ∈ cs, Coin.isAmountChar c := by
  intro c hc
  obtain ⟨d, hparse, -⟩ := @parse_of_denotes (String.ofList cs) number (by rwa [String.toList_ofList])
  exact isAmountChar_of_parse hparse (by rwa [String.toList_ofList])

end Decimal

namespace Coin

/-- So much of a denomination: its notation and the denomination, with white space in front, between and behind. -/
def Offers (text denom : String) (number : ℚ) : Prop :=
  ∃ front figures gap back, text.toList = front ++ (figures ++ (gap ++ (denom.toList ++ back))) ∧
    Decimal.Denotes figures number ∧ (∀ c ∈ front, isBlank c) ∧ (∀ c ∈ gap, isBlank c) ∧ ∀ c ∈ back, isBlank c

theorem offers_of_parse {text : String} {coin : Coin} (h : parse text = .ok coin) :
    ∃ number, Offers text coin.denom number := by
  obtain ⟨-, hrest⟩ := guard_eq_ok.1 h
  obtain ⟨-, hrest⟩ := guard_eq_ok.1 hrest
  obtain ⟨amount, hamount, hmake⟩ := bind_eq_ok.1 hrest
  obtain ⟨-, rfl⟩ := make_eq_ok_iff.1 hmake
  obtain ⟨number, hnumber, -⟩ := Decimal.denotes_of_parse hamount
  rw [String.toList_ofList] at hnumber
  obtain ⟨front, back, hfront, hback, htext⟩ := exists_trimChars text.toList
  obtain ⟨gap, tail, hgap, htail, hdenom⟩ := exists_trimChars ((trimChars text.toList).dropWhile isAmountChar)
  have hcut := List.takeWhile_append_dropWhile (p := isAmountChar) (l := trimChars text.toList)
  refine ⟨number, front, _, gap, tail ++ back, ?_, hnumber, hfront, hgap, List.forall_mem_append.2 ⟨htail, hback⟩⟩
  rw [hdenom] at hcut
  rw [← hcut] at htext
  simpa only [String.toList_ofList, List.append_assoc] using htext

/-- The trimmed text of an offer ends with the denomination. -/
theorem trimChars_offer {front figures denom back : List Char} (gap : List Char) (hfront : ∀ c ∈ front, isBlank c)
    (hback : ∀ c ∈ back, isBlank c) (hfilled : figures ≠ []) (hfigures : ∀ c ∈ figures, isAmountChar c)
    (hdenom : validDenom denom) :
    trimChars (front ++ (figures ++ (gap ++ (denom ++ back)))) = figures ++ (gap ++ denom) := by
  obtain ⟨head, tail, hcons, -, hall⟩ := of_validDenom hdenom
  have hne : denom ≠ [] := hcons ▸ List.cons_ne_nil head tail
  rw [trimChars_append_left hfront, ← List.append_assoc gap, ← List.append_assoc, trimChars_append_right hback]
  apply trimChars_eq_self_of_ends
  · rw [List.head?_append_of_ne_nil _ hfilled]
    exact fun c hc => isBlank_of_isAmountChar (hfigures c (List.mem_of_mem_head? hc))
  · rw [← List.append_assoc, List.getLast?_append_of_ne_nil _ hne]
    exact fun c hc => isBlank_of_isDenomChar (hall c (List.mem_of_getLast? hc))

/-- An offer of a valid denomination is accepted, with its number. -/
theorem parse_of_offers {text denom : String} {number : ℚ} (hoffers : Offers text denom number)
    (hdenom : validDenom denom.toList) :
    ∃ amount, parse text = .ok ⟨denom, amount⟩ ∧ (amount.units : ℚ) = number * 10 ^ 18 := by
  obtain ⟨front, figures, gap, back, htext, hnumber, hfront, hgap, hback⟩ := hoffers
  obtain ⟨head, tail, hcons, hhead, hall⟩ := of_validDenom hdenom
  have hfilled := hnumber.ne_nil
  have hfigures := hnumber.isAmountChar
  have htrim := trimChars_offer gap hfront hback hfilled hfigures hdenom
  -- The figures end where the gap begins, or the denomination where there is no gap.
  have hstop : ∃ c cs, gap ++ denom.toList = c :: cs ∧ ¬ isAmountChar c := by
    cases gap with
    | nil => exact ⟨head, tail, hcons, by simp [isAmountChar_of_isLower hhead]⟩
    | cons c gap =>
      have hblank := hgap c List.mem_cons_self
      exact ⟨c, gap ++ denom.toList, rfl, fun hamount => by simp [isBlank_of_isAmountChar hamount] at hblank⟩
  obtain ⟨c, cs, hrest, hc⟩ := hstop
  have htake : (figures ++ (gap ++ denom.toList)).takeWhile isAmountChar = figures := by
    rw [List.takeWhile_append_of_pos hfigures, hrest, List.takeWhile_cons_of_neg hc, List.append_nil]
  have hdrop : (figures ++ (gap ++ denom.toList)).dropWhile isAmountChar = gap ++ denom.toList := by
    rw [List.dropWhile_append_of_pos hfigures, hrest, List.dropWhile_cons_of_neg hc]
  have hname : String.ofList (trimChars (gap ++ denom.toList)) = denom := by
    rw [trimChars_append_left hgap, trimChars_eq_self fun c hc => isBlank_of_isDenomChar (hall c hc), String.ofList_toList]
  obtain ⟨amount, hamount, hunits⟩ := @Decimal.parse_of_denotes (String.ofList figures) number
    (by rwa [String.toList_ofList])
  refine ⟨amount, ?_, hunits⟩
  unfold parse
  simp only [htext, htrim, htake, hdrop, hname]
  refine guard_eq_ok.2 ⟨by simp [hrest], guard_eq_ok.2 ⟨by simpa using hfilled, bind_eq_ok.2 ⟨amount, hamount, ?_⟩⟩⟩
  exact make_eq_ok_iff.2 ⟨hdenom, rfl⟩

/-- A coin of a list has the number that a piece of the text offers, and any other offer of its denomination is the same. -/
theorem offers_of_mem {text : String} {coins : List Coin} (h : parseList text = .ok coins) {coin : Coin}
    (hcoin : coin ∈ coins) :
    (∃ piece ∈ pieces text, ∃ number, Offers piece coin.denom number) ∧
      ∀ piece ∈ pieces text, ∀ number, Offers piece coin.denom number → (coin.amount.units : ℚ) = number * 10 ^ 18 := by
  obtain rfl | ⟨read, hread, hperm, hascending⟩ := readFrom_of_parseList h
  · exact absurd hcoin List.not_mem_nil
  obtain ⟨source, hsource, hparse⟩ := hread.mem_iff.1 (hperm.mem_iff.1 hcoin)
  refine ⟨⟨source, hsource, offers_of_parse hparse⟩, fun piece hpiece number hoffers => ?_⟩
  obtain ⟨amount, hother, hunits⟩ := parse_of_offers hoffers (validDenom_of_parse hparse)
  -- The other coin is in the list too, and a list holds a denomination once.
  have hmem := hperm.mem_iff.2 (hread.mem_iff.2 ⟨piece, hpiece, hother⟩)
  rw [List.inj_on_of_nodup_map hascending.nodup hcoin hmem rfl]
  exact hunits

end Coin

end ChainClient
