import ChainClient.Client.Error

/-!
# Settings of a client

Where the node is, which chain it serves, how transactions are broadcast, and how their fees come about: either fixed, or from gas prices. A gas limit of zero stands for one that is estimated before each broadcast.
-/

namespace ChainClient

structure ClientConfig where
  nodeUri : String
  chainId : String
  mode : BroadcastMode
  fees : List Coin
  gas : UInt64
  gasAdjustment : Binary64
  gasPrices : List Coin
  deriving DecidableEq

/-- The settings as they are written down, with coins as texts. -/
structure ConfigFile where
  nodeUri : String
  chainId : String
  mode : BroadcastMode
  fees : String
  gas : UInt64
  gasAdjustment : Binary64
  gasPrices : String
  deriving DecidableEq

namespace ClientConfig

def ofFile (file : ConfigFile) : Except ClientError ClientConfig := do
  if Text.blank file.nodeUri then throw (.invalidConfig .emptyNodeUri)
  if Text.blank file.chainId then throw (.invalidConfig .emptyChainId)
  if !Text.blank file.fees && !Text.blank file.gasPrices then throw (.invalidConfig .feesAndGasPrices)
  if !file.gasAdjustment.isFinite || !file.gasAdjustment.isPositive then
    throw (.invalidConfig (.gasAdjustment file.gasAdjustment))
  let fees ← (Coin.parseList file.fees).mapError .value
  let gasPrices ← (Coin.parseList file.gasPrices).mapError .value
  return { nodeUri := file.nodeUri, chainId := file.chainId, mode := file.mode, fees, gas := file.gas,
           gasAdjustment := file.gasAdjustment, gasPrices }

end ClientConfig

end ChainClient
