import ChainClient.Coin.Basic
import ChainClient.Proofs.Coin.Decimal
import ChainClient.Proofs.Outcome

/-!
# Coins read back

The text of a coin is cut again where its amount ends, since no valid denomination starts with a digit or a point, and trimming finds nothing to take away. So a coin is read back from its text exactly when its denomination is valid. An amount is read from digits and at most one point, never from a sign.
-/

namespace ChainClient

/-! ### Visible characters -/

namespace Decimal

/-- What is read as an amount holds digits and points only. -/
theorem isAmountChar_of_parse {text : String} {d : Decimal} (h : parse text = .ok d) {c : Char} (hc : c ∈ text.toList) :
    Coin.isAmountChar c := by
  rw [parse] at h
  cases hsplit : split? text.toList with
  | none =>
    rw [hsplit] at h
    cases h
  | some parts =>
    obtain ⟨whole, part⟩ := parts
    rw [hsplit] at h
    obtain ⟨hdigits, -⟩ := guard_eq_ok.1 h
    rw [Bool.not_eq_true', Bool.not_eq_false, Bool.and_eq_true, List.all_eq_true, List.all_eq_true] at hdigits
    obtain ⟨hwhole, hpart⟩ := hdigits
    have hmem : c ∈ whole ∨ c = '.' ∨ c ∈ part := by
      unfold split? at hsplit
      split at hsplit
      · cases hsplit
      · rename_i hfound
        cases hsplit
        rw [Text.splitOnce_eq_some hfound, List.mem_append, List.mem_cons] at hc
        exact hc
      · split at hsplit
        · cases hsplit
        · cases hsplit
          exact .inl hc
    rw [Coin.isAmountChar, Bool.or_eq_true, beq_iff_eq]
    rcases hmem with hmem | hmem | hmem
    · exact .inl (hwhole c hmem)
    · exact .inr hmem
    · exact .inl (hpart c hmem)

theorem isAmountChar_of_mem_chars {d : Decimal} {c : Char} (hc : c ∈ d.chars) : Coin.isAmountChar c :=
  isAmountChar_of_parse (parse_text d) (by rwa [text, String.toList_ofList])

end Decimal

namespace Coin

theorem isBlank_of_isAmountChar {c : Char} (h : isAmountChar c) : Text.isBlank c = false := by
  rw [isAmountChar, Bool.or_eq_true, beq_iff_eq] at h
  rcases h with hdigit | rfl
  · have hbounds := Text.toNat_of_isDigit hdigit
    exact Text.isBlank_eq_false (by omega) (by omega)
  · decide

theorem isBlank_of_isDenomChar {c : Char} (h : isDenomChar c) : Text.isBlank c = false := by
  simp only [isDenomChar, Bool.or_eq_true, beq_iff_eq] at h
  rcases h with ((((halphanum | rfl) | rfl) | rfl) | rfl) | rfl
  · exact Text.isBlank_of_isAlphanum halphanum
  all_goals decide

theorem isAmountChar_of_isLower {c : Char} (h : c.isLower) : isAmountChar c = false := by
  have hletter := Text.toNat_of_isLower h
  rw [isAmountChar, Bool.or_eq_false_iff, beq_eq_false_iff_ne]
  constructor
  · by_contra hdigit
    have hbounds := Text.toNat_of_isDigit (Bool.of_not_eq_false hdigit)
    omega
  · rintro rfl
    exact absurd hletter (by decide)

theorem isDenomChar_of_isLower {c : Char} (h : c.isLower) : isDenomChar c := by
  have halphanum : c.isAlphanum = true := by
    change ((c.isUpper || c.isLower) || c.isDigit) = true
    rw [h, Bool.or_true, Bool.true_or]
  simp only [isDenomChar, halphanum, Bool.true_or]

/-- A valid denomination starts with a lower-case letter and has permitted characters only. -/
theorem of_validDenom {denom : List Char} (h : validDenom denom) :
    ∃ head tail, denom = head :: tail ∧ head.isLower ∧ ∀ c ∈ denom, isDenomChar c := by
  cases denom with
  | nil => cases h
  | cons head tail =>
    simp only [validDenom, Bool.and_eq_true, List.all_eq_true] at h
    obtain ⟨⟨⟨hhead, htail⟩, -⟩, -⟩ := h
    exact ⟨head, tail, rfl, hhead, List.forall_mem_cons.2 ⟨isDenomChar_of_isLower hhead, htail⟩⟩

theorem toList_text (coin : Coin) : coin.text.toList = coin.amount.chars ++ coin.denom.toList := by
  rw [text, String.toList_append, Decimal.text, String.toList_ofList]

theorem make_eq_ok_iff {denom : String} {amount : Decimal} {coin : Coin} :
    make denom amount = .ok coin ↔ validDenom denom.toList ∧ coin = ⟨denom, amount⟩ := by
  rw [make]
  by_cases h : validDenom denom.toList
  · rw [if_pos h, Except.ok.injEq, eq_comm, and_iff_right h]
  · rw [if_neg h]
    exact iff_of_false nofun fun hvalid => h hvalid.1

/-- Whatever is read as a coin has a valid denomination. -/
theorem validDenom_of_parse {text : String} {coin : Coin} (h : parse text = .ok coin) : validDenom coin.denom.toList := by
  obtain ⟨-, hrest⟩ := guard_eq_ok.1 h
  obtain ⟨-, hrest⟩ := guard_eq_ok.1 hrest
  obtain ⟨amount, -, hmake⟩ := bind_eq_ok.1 hrest
  obtain ⟨hvalid, rfl⟩ := make_eq_ok_iff.1 hmake
  exact hvalid

theorem parse_text_of_validDenom {coin : Coin} (h : validDenom coin.denom.toList) : parse coin.text = .ok coin := by
  obtain ⟨head, tail, hdenom, hhead, hall⟩ := of_validDenom h
  have hamount : ∀ c ∈ coin.amount.chars, isAmountChar c := fun c => Decimal.isAmountChar_of_mem_chars
  have htrim : Text.trimChars coin.text.toList = coin.amount.chars ++ coin.denom.toList := by
    rw [toList_text]
    apply Text.trimChars_eq_self
    intro c hc
    rcases List.mem_append.1 hc with hmem | hmem
    · exact isBlank_of_isAmountChar (hamount c hmem)
    · exact isBlank_of_isDenomChar (hall c hmem)
  have htake : (coin.amount.chars ++ coin.denom.toList).takeWhile isAmountChar = coin.amount.chars := by
    rw [List.takeWhile_append_of_pos hamount, hdenom, List.takeWhile_cons_of_neg (by simp [isAmountChar_of_isLower hhead]),
      List.append_nil]
  have hdrop : (coin.amount.chars ++ coin.denom.toList).dropWhile isAmountChar = coin.denom.toList := by
    rw [List.dropWhile_append_of_pos hamount, hdenom, List.dropWhile_cons_of_neg (by simp [isAmountChar_of_isLower hhead])]
  have hname : String.ofList (Text.trimChars coin.denom.toList) = coin.denom := by
    rw [Text.trimChars_eq_self fun c hc => isBlank_of_isDenomChar (hall c hc), String.ofList_toList]
  have hnonempty : ¬ coin.denom.toList.isEmpty := by simp [hdenom]
  have hdigits : ¬ coin.amount.chars.isEmpty := by simp [Decimal.chars]
  have hread : Decimal.parse (String.ofList coin.amount.chars) = .ok coin.amount := Decimal.parse_text coin.amount
  unfold parse
  simp only [htrim, htake, hdrop, hname]
  refine guard_eq_ok.2 ⟨hnonempty, guard_eq_ok.2 ⟨hdigits, bind_eq_ok.2 ⟨coin.amount, hread, ?_⟩⟩⟩
  exact make_eq_ok_iff.2 ⟨h, rfl⟩

theorem parse_text_iff {coin : Coin} : parse coin.text = .ok coin ↔ validDenom coin.denom.toList :=
  ⟨validDenom_of_parse, parse_text_of_validDenom⟩

end Coin

end ChainClient
