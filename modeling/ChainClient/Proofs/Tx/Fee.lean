import ChainClient.Proofs.Client.Settings
import ChainClient.Proofs.Coin.Price
import ChainClient.Tx.Gas

/-!
# The fee for gas

A fee is the fixed list of coins, or the gas prices times the gas. Amounts are whole numbers of units, so that the product is exact: the text of an amount in the document of a fee denotes the number of the price, times the gas. A price is scaled in its own place, so that the denominations of a fee are those of the prices and ascend like them, and the fee for more gas is the sum of the fees.
-/

namespace ChainClient

namespace Decimal

theorem scale_add (d : Decimal) {gas more : UInt64} (hfits : gas.toNat + more.toNat < 2 ^ 64) :
    d.scale (gas + more) = (d.scale gas).add (d.scale more) := by
  rw [scale, scale, scale, add, UInt64.toNat_add, Nat.mod_eq_of_lt hfits, Nat.mul_add]

/-- The text of a multiple denotes the multiple of the number. -/
theorem denotes_text_scale {d : Decimal} {number : ℚ} (h : (d.units : ℚ) = number * 10 ^ 18) (gas : UInt64) :
    Denotes (d.scale gas).text.toList (number * gas.toNat) := by
  have hdenotes := denotes_text (d.scale gas)
  have hvalue : ((d.scale gas).units : ℚ) / 10 ^ 18 = number * gas.toNat := by
    rw [scale, Nat.cast_mul, h]
    ring
  rwa [hvalue] at hdenotes

end Decimal

/-- The document of a fee with these denominations and texts of amounts. -/
def Fee.document (entries : List (String × String)) (gas : UInt64) : Json :=
  .obj [("amount", .arr (entries.map fun (denom, amount) => .obj [("denom", .str denom), ("amount", .str amount)])),
    ("gas", .str (String.ofList (Text.digits gas.toNat)))]

theorem Fee.write_eq_document (fee : Fee) :
    Fee.wire.write fee = Fee.document (fee.amount.map fun coin => (coin.denom, coin.amount.text)) fee.gas := by
  rw [Fee.document, List.map_map]
  rfl

namespace ClientConfig

variable {file : ConfigFile} {config : ClientConfig}

theorem feeFor_amount_of_fees (h : config.fees ≠ []) (gas : UInt64) : (config.feeFor gas).amount = config.fees :=
  if_neg fun hempty => h (List.isEmpty_iff.1 hempty)

theorem feeFor_amount_of_prices (h : config.fees = []) (gas : UInt64) :
    (config.feeFor gas).amount = config.gasPrices.map fun price => ⟨price.denom, price.amount.scale gas⟩ :=
  if_pos (List.isEmpty_iff.2 h)

/-- The fee has the denominations of the fixed fees or of the gas prices. -/
theorem exists_parseList_of_feeFor (h : Accepted file config) (gas : UInt64) :
    ∃ text coins, Coin.parseList text = .ok coins ∧ (config.feeFor gas).amount.map Coin.denom = coins.map Coin.denom := by
  by_cases hfees : config.fees = []
  · refine ⟨file.gasPrices, config.gasPrices, h.gasPrices, ?_⟩
    rw [feeFor_amount_of_prices hfees, List.map_map]
    rfl
  · exact ⟨file.fees, config.fees, h.fees, by rw [feeFor_amount_of_fees hfees]⟩

theorem ascending_feeFor (h : Accepted file config) (gas : UInt64) : Coin.Ascending (config.feeFor gas).amount := by
  obtain ⟨text, coins, hparse, hdenoms⟩ := exists_parseList_of_feeFor h gas
  have hcoins := List.pairwise_map.2 (Coin.ascending_of_parseList hparse)
  rw [← hdenoms] at hcoins
  exact List.pairwise_map.1 hcoins

theorem validDenom_feeFor (h : Accepted file config) (gas : UInt64) :
    ∀ coin ∈ (config.feeFor gas).amount, Coin.validDenom coin.denom.toList := by
  obtain ⟨text, coins, hparse, hdenoms⟩ := exists_parseList_of_feeFor h gas
  intro coin hcoin
  have hmem := List.mem_map_of_mem hcoin (f := Coin.denom)
  rw [hdenoms] at hmem
  obtain ⟨source, hsource, hdenom⟩ := List.mem_map.1 hmem
  rw [← hdenom]
  exact Coin.validDenom_of_parseList hparse source hsource

theorem feeFor_add (h : config.fees = []) {gas more : UInt64} (hfits : gas.toNat + more.toNat < 2 ^ 64) :
    (config.feeFor (gas + more)).amount = List.zipWith (fun left right => ⟨left.denom, left.amount.add right.amount⟩)
      (config.feeFor gas).amount (config.feeFor more).amount := by
  simp only [feeFor_amount_of_prices h, List.zipWith_map, List.zipWith_self, Decimal.scale_add _ hfits]

/-- The entry that a gas price makes for so much gas: its denomination, and a text for the number that the price offers, times the gas. -/
structure ChargedBy (prices : String) (gas : UInt64) (price : Coin) (entry : String × String) : Prop where
  denom : entry.1 = price.denom
  offered : ∃ piece ∈ Coin.pieces prices, ∃ number, Coin.Offers piece price.denom number
  exact : ∀ piece ∈ Coin.pieces prices, ∀ number, Coin.Offers piece price.denom number →
    Decimal.Denotes entry.2.toList (number * gas.toNat)

/-- Under gas prices a fee is written with one entry for each price. -/
theorem exists_document_of_prices (haccepted : Accepted file config) (h : config.fees = []) (gas : UInt64) :
    ∃ entries, Fee.wire.write (config.feeFor gas) = Fee.document entries gas ∧
      List.Forall₂ (ChargedBy file.gasPrices gas) config.gasPrices entries := by
  refine ⟨config.gasPrices.map fun price => (price.denom, (price.amount.scale gas).text), ?document, ?entries⟩
  case document =>
    rw [Fee.write_eq_document, feeFor_amount_of_prices h, List.map_map]
    rfl
  case entries =>
    rw [List.forall₂_map_right_iff, List.forall₂_same]
    intro price hprice
    obtain ⟨hoffered, hunits⟩ := Coin.offers_of_mem haccepted.gasPrices hprice
    exact ⟨rfl, hoffered, fun piece hpiece number hoffers =>
      Decimal.denotes_text_scale (hunits piece hpiece number hoffers) gas⟩

/-- **Exact fees.** Accepted settings have fixed fees or gas prices, never both. The fee for gas records the gas, and its coins ascend strictly by their denominations, which are all valid. Fixed fees are the fee for any gas, as their text is read. Otherwise the fee has a coin for each gas price, in the order of the prices and with their denominations; each is written with a text that denotes the number in the text of the price, times the gas; and the fee for more gas is the sum of the fees. -/
theorem fees_exact (h : ofFile file = .ok config) :
    (config.fees = [] ∨ config.gasPrices = []) ∧
    (∀ gas, (config.feeFor gas).gas = gas ∧ Coin.Ascending (config.feeFor gas).amount ∧
      ∀ coin ∈ (config.feeFor gas).amount, Coin.validDenom coin.denom.toList) ∧
    (config.fees ≠ [] → Coin.parseList file.fees = .ok config.fees ∧ ∀ gas, (config.feeFor gas).amount = config.fees) ∧
    (config.fees = [] → Coin.parseList file.gasPrices = .ok config.gasPrices ∧
      (∀ gas, (config.feeFor gas).amount.map Coin.denom = config.gasPrices.map Coin.denom ∧
        ∃ entries, Fee.wire.write (config.feeFor gas) = Fee.document entries gas ∧
          List.Forall₂ (ChargedBy file.gasPrices gas) config.gasPrices entries) ∧
      ∀ gas more : UInt64, gas.toNat + more.toNat < 2 ^ 64 →
        (config.feeFor (gas + more)).amount = List.zipWith (fun left right => ⟨left.denom, left.amount.add right.amount⟩)
          (config.feeFor gas).amount (config.feeFor more).amount) := by
  have haccepted := ofFile_eq_ok_iff.1 h
  refine ⟨haccepted.fees_eq_nil_or, fun gas => ⟨rfl, ascending_feeFor haccepted gas, validDenom_feeFor haccepted gas⟩,
    fun hfees => ⟨haccepted.fees, feeFor_amount_of_fees hfees⟩,
    fun hnone => ⟨haccepted.gasPrices, fun gas => ⟨?_, exists_document_of_prices haccepted hnone gas⟩,
      fun gas more => feeFor_add hnone⟩⟩
  rw [feeFor_amount_of_prices hnone, List.map_map]
  rfl

/-- A fee under two gas prices, and what one of its texts denotes. -/
theorem fees_exact_prices :
    let file : ConfigFile :=
      { nodeUri := "node", chainId := "chain", mode := .sync, fees := "", gas := 0, gasAdjustment := .one,
        gasPrices := "2xxb-781, 0.00000001okt" }
    ∃ config, ofFile file = .ok config ∧ ∃ small large,
      Fee.wire.write (config.feeFor 200000) = Fee.document [("okt", small), ("xxb-781", large)] 200000 ∧
      Decimal.Denotes small.toList (1 / 500) ∧ Coin.Ascending (config.feeFor 200000).amount ∧
      (config.feeFor (200000 + 7)).amount = List.zipWith (fun left right => ⟨left.denom, left.amount.add right.amount⟩)
        (config.feeFor 200000).amount (config.feeFor 7).amount := by
  intro file
  let prices : List Coin := [⟨"okt", ⟨10 ^ 10⟩⟩, ⟨"xxb-781", ⟨2 * 10 ^ 18⟩⟩]
  let config : ClientConfig :=
    { nodeUri := "node", chainId := "chain", mode := .sync, fees := [], gas := 0, gasAdjustment := .one, gasPrices := prices }
  have hread : Coin.parseList file.gasPrices = .ok prices := by decide +kernel
  have hpositive : 0 < file.gasAdjustment.rational := by
    rw [Binary64.rational_one]
    exact one_pos
  have hfile : ofFile file = .ok config := ofFile_eq_ok_iff.2
    { node := by decide, chain := by decide, exclusive := .inl rfl, finite := by decide, positive := hpositive, fees := rfl,
      gasPrices := hread, kept := ⟨rfl, rfl, rfl, rfl, rfl⟩ }
  obtain ⟨-, hfee, -, hprices⟩ := fees_exact hfile
  obtain ⟨-, hentries, hsum⟩ := hprices rfl
  obtain ⟨-, entries, hdocument, hcharged⟩ := hentries 200000
  obtain ⟨⟨denom, small⟩, rest, hsmall, hrest, rfl⟩ := List.forall₂_cons_left_iff.1 hcharged
  obtain ⟨⟨other, large⟩, last, hlarge, hlast, rfl⟩ := List.forall₂_cons_left_iff.1 hrest
  obtain rfl := List.forall₂_nil_left_iff.1 hlast
  obtain rfl : denom = "okt" := hsmall.denom
  obtain rfl : other = "xxb-781" := hlarge.denom
  have hnumber : Decimal.Denotes "0.00000001".toList (Text.placeValue ['0'] + Text.placeValue "00000001".toList / 10 ^ 8) :=
    @Decimal.Denotes.point ['0'] "00000001".toList (List.all_eq_true.1 (by decide)) (List.all_eq_true.1 (by decide))
      (by decide) (by decide)
  have hplaces : Text.placeValue ['0'] = 0 ∧ Text.placeValue "00000001".toList = 1 := by decide
  have hoffer : Coin.Offers " 0.00000001okt" "okt" _ :=
    ⟨[' '], _, [], [], by decide, hnumber, List.forall_mem_singleton.2 (by decide), nofun, nofun⟩
  have hdenotes := hsmall.exact " 0.00000001okt" (by decide) _ hoffer
  have hgas : (200000 : UInt64).toNat = 200000 := rfl
  have hvalue : (Text.placeValue ['0'] + Text.placeValue "00000001".toList / 10 ^ 8 : ℚ) * (200000 : UInt64).toNat =
      1 / 500 := by
    rw [hplaces.1, hplaces.2, hgas]
    norm_num
  rw [hvalue] at hdenotes
  exact ⟨config, hfile, small, large, hdocument, hdenotes, (hfee 200000).2.1, hsum 200000 7 (by decide)⟩

end ClientConfig

end ChainClient
