import ChainClient.Codec.DataType
import ChainClient.Text.Reason

/-!
# Why an operation of the client fails

One constructor for each cause, from a bad configuration to an answer of the node that cannot be read. Where a cause wraps one of its own kind (a value of the chain, an encoding, a file), the wrapped cause follows in the chain of messages and is not repeated here.
-/

namespace ChainClient

/-- The ways in which a file of settings is refused. -/
inductive FileError where
  | cannotOpen (path : String)
  | cannotRead (path : String)
  | empty (path : String)
  | malformed (path : String)
  deriving Repr, DecidableEq

def FileError.message : FileError → String
  | cannotOpen path => "cannot open " ++ path
  | cannotRead path => "cannot read " ++ path
  | empty path => path ++ " is empty"
  | malformed path => "failed to deserialize toml file: " ++ path

/-- The ways in which settings contradict what the client needs. -/
inductive ConfigFlaw where
  | emptyNodeUri
  | emptyChainId
  | feesAndGasPrices
  | gasAdjustment (value : Binary64)
  deriving Repr, DecidableEq

def ConfigFlaw.message : ConfigFlaw → String
  | emptyNodeUri => "empty node uri"
  | emptyChainId => "empty chain id"
  | feesAndGasPrices => "cannot provide both fees and gas prices"
  | gasAdjustment value => "gas adjustment must be positive, got " ++ value.plain

/-- The ways in which an argument of an operation is refused. -/
inductive ParamFlaw where
  | emptyKeyName
  | emptyCoins
  | emptyAddress
  | emptyValidators
  | emptyValidator
  | duplicateValidator (text : String)
  | proposalZero
  | pageZero
  | limitZero
  | zero
  | heightNotPositive (height : Int64)
  | heightTooLarge (height : Int64)
  | heightInvalid (height : Int64)
  | hashLength (found : Nat)
  | emptyQuery
  | unknownOrder (text : String)
  | emptyEvents
  | eventPair (text : String)
  | emptyEventPart (text : String)
  | noEvents
  | transferLine (text : String)
  | emptySymbol
  /-- The text does not have the form that the parameter needs. -/
  | form
  deriving Repr, DecidableEq

/-- The reason in words; a wrong form speaks for itself. -/
def ParamFlaw.reason? : ParamFlaw → Option String
  | emptyKeyName => some "empty key name"
  | emptyCoins => some "empty coins"
  | emptyAddress => some "empty address"
  | emptyValidators => some "empty validator address list"
  | emptyValidator => some "empty validator address"
  | duplicateValidator text => some ("duplicate validator address: " ++ text)
  | proposalZero => some "proposal id must be positive"
  | pageZero => some "page must be positive"
  | limitZero => some "limit must be positive"
  | zero => some "must be positive"
  | heightNotPositive height => some ("height must be positive, got " ++ toString height.toInt)
  | heightTooLarge height => some ("height " ++ toString height.toInt ++ " out of range")
  | heightInvalid height => some ("must pass in valid height, " ++ toString height.toInt ++ " not valid")
  | hashLength found => some ("expected 32 bytes, got " ++ toString found)
  | emptyQuery => some "empty query"
  | unknownOrder text => some ("unknown order " ++ text)
  | emptyEvents => some "empty event filter"
  | eventPair text => some ("expected key=value, got " ++ Text.quoted text)
  | emptyEventPart text => some ("empty key or value in " ++ Text.quoted text)
  | noEvents => some "must declare at least one event to search"
  | transferLine text => some ("expected `<address> <coins>`, got " ++ Text.quoted text)
  | emptySymbol => some "empty symbol"
  | form => none

/-- The ways in which a phrase of words is no mnemonic. -/
inductive MnemonicFlaw where
  | unknownWord
  | wordCount (found : Nat)
  | checksum
  deriving Repr, DecidableEq

def MnemonicFlaw.message : MnemonicFlaw → String
  | unknownWord => "invalid word in phrase"
  | wordCount found => "invalid number of words in phrase: " ++ toString found
  | checksum => "invalid checksum"

inductive Style where
  /-- In an envelope with its name. -/
  | concrete
  /-- Bare JSON. -/
  | plain
  | proto
  deriving DecidableEq, Repr

def Style.name : Style → String
  | concrete => "Concrete"
  | plain => "Plain"
  | proto => "Proto"

inductive EncodeFailure where
  | noJsonForm
  | registeredAs (name : String) (style : Style)
  deriving DecidableEq, Repr

def EncodeFailure.reason : EncodeFailure → String
  | noJsonForm => "protobuf type has no json form"
  | registeredAs name style => "registered as " ++ name ++ " (" ++ style.name ++ ")"

inductive DecodeFailure where
  | unregistered
  | noJsonForm
  | unexpectedType (found : String)
  | malformed
  | invalid (cause : ValueError)
  | protobuf
  deriving DecidableEq, Repr

def DecodeFailure.ofReadError : ReadError → DecodeFailure
  | .malformed => malformed
  | .invalid cause => invalid cause

def DecodeFailure.reason? : DecodeFailure → Option String
  | unregistered => some "unregistered type"
  | noJsonForm => some "protobuf type has no json form"
  | unexpectedType found => some ("unexpected type " ++ found)
  | malformed => none
  | invalid cause => some cause.message
  | protobuf => some EncodeError.protobufDecode.message

inductive ClientError where
  | loadConfig (cause : FileError)
  | invalidConfig (flaw : ConfigFlaw)
  | invalidParam (name : String) (flaw : ParamFlaw)
  | emptyPassword
  | emptyMessages
  | value (cause : ValueError)
  | encoding (cause : EncodeError)
  | rpcAddress (address : String)
  | rpc (operation : String)
  | rejectedQuery (path : String) (code : UInt32) (log : String)
  | noCodec
  | unregisteredType (type : DataType)
  | encode (name : String) (failure : EncodeFailure)
  | decode (name : String) (length : Nat) (failure : DecodeFailure)
  | keyNotFound (name : String)
  | keyExists (name : String)
  | wrongPassword (name : String)
  | invalidMnemonic (flaw : MnemonicFlaw)
  | keyDerivation
  deriving DecidableEq, Repr

namespace ClientError

private def withReason (text : String) : Option String → String
  | some reason => text ++ ": " ++ Text.reason reason
  | none => text

def message : ClientError → String
  | loadConfig _ => "load exchain client config error"
  | invalidConfig flaw => "invalid client config: " ++ flaw.message
  | invalidParam name flaw =>
    "invalid parameter `" ++ name ++ "`" ++ (match flaw.reason? with
      | some reason => ": " ++ reason
      | none => "")
  | emptyPassword => "password cannot be empty"
  | emptyMessages => "no messages to broadcast"
  | value _ => "invalid chain type"
  | encoding _ => "encoding error"
  | rpcAddress address => "tendermint rpc client for " ++ address ++ " cannot be created"
  | rpc operation => "tendermint rpc `" ++ operation ++ "` error"
  | rejectedQuery path code log => "abci query `" ++ path ++ "` failed with code " ++ toString code.toNat ++ ": " ++ log
  | noCodec => "codec is used before the modules registered their types"
  | unregisteredType type => "type " ++ type.label ++ " is not registered in the codec"
  | encode name failure => withReason ("encoding " ++ name ++ " failed") (some failure.reason)
  | decode name length failure =>
    withReason ("decoding " ++ name ++ " from " ++ toString length ++ " bytes failed") failure.reason?
  | keyNotFound name => "key " ++ name ++ " not found in keyring"
  | keyExists name => "key " ++ name ++ " already exists in keyring"
  | wrongPassword name => "wrong password for key " ++ name
  | invalidMnemonic flaw => "invalid mnemonic: " ++ flaw.message
  | keyDerivation => "cannot generate Secp256k1 private key from BIP-32 seed"

end ClientError

end ChainClient
