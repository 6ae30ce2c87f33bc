import ChainClient.Client.Config
import ChainClient.Proofs.Coin.Lists
import ChainClient.Proofs.Number.Exact

/-!
# Settings that are accepted

Settings are accepted exactly when they pass every check, and then hold what their texts are read as. Of the fees and the gas prices at least one text is blank, and a blank text holds no coins, so the two lists are never both filled. The adjustment of the gas is a positive number.
-/

namespace ChainClient

namespace ClientConfig

variable {file : ConfigFile} {config : ClientConfig}

/-- What settings must be like to be accepted, and what they are then. -/
structure Accepted (file : ConfigFile) (config : ClientConfig) : Prop where
  node : ¬ Text.blank file.nodeUri
  chain : ¬ Text.blank file.chainId
  exclusive : Text.blank file.fees ∨ Text.blank file.gasPrices
  finite : file.gasAdjustment.isFinite
  positive : 0 < file.gasAdjustment.rational
  fees : Coin.parseList file.fees = .ok config.fees
  gasPrices : Coin.parseList file.gasPrices = .ok config.gasPrices
  kept : config.nodeUri = file.nodeUri ∧ config.chainId = file.chainId ∧ config.mode = file.mode ∧
    config.gas = file.gas ∧ config.gasAdjustment = file.gasAdjustment

theorem ofFile_eq_ok_iff : ofFile file = .ok config ↔ Accepted file config := by
  constructor
  · intro h
    obtain ⟨hnode, h⟩ := guard_eq_ok.1 h
    obtain ⟨hchain, h⟩ := guard_eq_ok.1 h
    obtain ⟨hexclusive, h⟩ := guard_eq_ok.1 h
    obtain ⟨hadjustment, h⟩ := guard_eq_ok.1 h
    obtain ⟨fees, hfees, h⟩ := bind_eq_ok.1 h
    obtain ⟨gasPrices, hgasPrices, h⟩ := bind_eq_ok.1 h
    obtain rfl := Except.ok.inj h
    simp only [Bool.or_eq_true, Bool.not_eq_true', not_or, Bool.not_eq_false] at hadjustment
    simp only [Bool.and_eq_true, Bool.not_eq_true', ← Bool.not_eq_true, not_and_or, not_not] at hexclusive
    exact ⟨hnode, hchain, hexclusive, hadjustment.1, (Binary64.isPositive_iff hadjustment.1).1 hadjustment.2,
      mapError_eq_ok.1 hfees, mapError_eq_ok.1 hgasPrices, rfl, rfl, rfl, rfl, rfl⟩
  · intro h
    have hexclusive : ¬ (!Text.blank file.fees && !Text.blank file.gasPrices) = true := by
      rcases h.exclusive with hblank | hblank <;> simp [hblank]
    have hadjustment : ¬ (!file.gasAdjustment.isFinite || !file.gasAdjustment.isPositive) = true := by
      simp [h.finite, (Binary64.isPositive_iff h.finite).2 h.positive]
    refine guard_eq_ok.2 ⟨h.node, guard_eq_ok.2 ⟨h.chain, guard_eq_ok.2 ⟨hexclusive, guard_eq_ok.2 ⟨hadjustment, ?_⟩⟩⟩⟩
    refine bind_eq_ok.2 ⟨config.fees, mapError_eq_ok.2 h.fees, ?_⟩
    refine bind_eq_ok.2 ⟨config.gasPrices, mapError_eq_ok.2 h.gasPrices, ?_⟩
    obtain ⟨hnode, hchain, hmode, hgas, hadjusts⟩ := h.kept
    rw [← hnode, ← hchain, ← hmode, ← hgas, ← hadjusts]
    rfl

/-- There are fees or gas prices, never both. -/
theorem Accepted.fees_eq_nil_or (h : Accepted file config) : config.fees = [] ∨ config.gasPrices = [] := by
  rcases h.exclusive with hblank | hblank
  · exact .inl (Except.ok.inj (h.fees.symm.trans (Coin.parseList_of_blank hblank)))
  · exact .inr (Except.ok.inj (h.gasPrices.symm.trans (Coin.parseList_of_blank hblank)))

/-- A factor for the gas that some accepted settings have. -/
def Adjustable (x : Binary64) : Prop := ∃ file config, ofFile file = .ok config ∧ config.gasAdjustment = x

theorem adjustable_iff {x : Binary64} : Adjustable x ↔ x.isFinite ∧ 0 < x.rational := by
  constructor
  · rintro ⟨file, config, h, rfl⟩
    have haccepted := ofFile_eq_ok_iff.1 h
    rw [haccepted.kept.2.2.2.2]
    exact ⟨haccepted.finite, haccepted.positive⟩
  · rintro ⟨hfinite, hpositive⟩
    let file : ConfigFile :=
      { nodeUri := "node", chainId := "chain", mode := .sync, fees := "", gas := 0, gasAdjustment := x, gasPrices := "" }
    let config : ClientConfig :=
      { nodeUri := "node", chainId := "chain", mode := .sync, fees := [], gas := 0, gasAdjustment := x, gasPrices := [] }
    have hnode : ¬ Text.blank "node" := by decide
    have hchain : ¬ Text.blank "chain" := by decide
    exact ⟨file, config, ofFile_eq_ok_iff.2
      ⟨hnode, hchain, .inl rfl, hfinite, hpositive, rfl, rfl, rfl, rfl, rfl, rfl, rfl⟩, rfl⟩

end ClientConfig

end ChainClient
