import ChainClient.Client.Config

/-!
# Gas and fees

The fee for a gas limit is the fixed one where there is one, and otherwise each gas price times the limit. The limit itself is the gas that a simulation used, times an adjustment, rounded down and kept within 64 bits and a maximum.
-/

namespace ChainClient

attribute [local instance (high + 1)] instPowNat

/-- The fee of a transaction that may use so much gas. -/
def ClientConfig.feeFor (config : ClientConfig) (gas : UInt64) : Fee :=
  { amount :=
      if config.fees.isEmpty then config.gasPrices.map fun price => ⟨price.denom, price.amount.scale gas⟩
      else config.fees
    gas }

/-- The digits of a number in base `2 ^ 64`, the last one first; zero has none. -/
def wordDigits (n : Nat) : List UInt64 :=
  if n = 0 then [] else UInt64.ofNat n :: wordDigits (n / 2 ^ (64 : Nat))
termination_by n
decreasing_by exact Nat.div_lt_self (Nat.pos_of_ne_zero ‹_›) (by decide)

/-- The number with these digits if it fits into one of them, and otherwise the largest that does. -/
def saturated : List UInt64 → UInt64
  | [] => 0
  | [digit] => digit
  | _ => UInt64.ofNat (2 ^ (64 : Nat) - 1)

/-- The adjusted gas limit; the sign of the product is not looked at. -/
def adjustGas (adjustment : Binary64) (gas max : UInt64) : UInt64 :=
  if gas = 0 then 0
  else if adjustment = Binary64.one then min gas max
  else match adjustment.mulFloor? gas.toNat with
    | none => min gas max
    | some product => min (saturated (wordDigits product.natAbs)) max

/-- The gas that a simulation wanted and used. -/
structure GasInfo where
  wanted : UInt64
  used : UInt64
  deriving DecidableEq, Repr

open Wire in
def GasInfo.simulationWire : Wire GasInfo :=
  record
    (field "gas_info"
      (record (optionalField "gas_wanted" quotedUInt64 0 <| optionalField "gas_used" quotedUInt64 0 .nil)
        (fun g : GasInfo => (g.wanted, g.used, ()))
        (fun (wanted, used, ()) => { wanted, used }))
      .nil)
    (fun g => (g, ())) (fun (g, ()) => g)

end ChainClient
