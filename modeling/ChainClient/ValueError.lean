import ChainClient.Encoding.Error
import ChainClient.Text.Quoted

/-!
# Why a value of the chain is refused

One constructor for each cause that reading an amount, a coin, an address, a key, an identifier or a height can fail with, or that makes a message invalid. The wording is given once, in `message`; a cause that wraps another one names only itself there.
-/

namespace ChainClient

/-- The ways in which an identifier of a port or a channel is malformed. -/
inductive IdentifierError where
  | empty
  | containsSeparator (id : String)
  | invalidLength (id : String) (length min max : Nat)
  | invalidCharacter (id : String)
  deriving Repr, DecidableEq

namespace IdentifierError

def message : IdentifierError → String
  | empty => "identifier cannot be empty"
  | containsSeparator id => "identifier " ++ id ++ " cannot contain separator '/'"
  | invalidLength id length min max =>
    "identifier " ++ id ++ " has invalid length " ++ toString length ++ " must be between " ++ toString min ++ "-" ++
      toString max ++ " characters"
  | invalidCharacter id =>
    "identifier " ++ id ++ " must only contain alphanumeric characters or `.`, `_`, `+`, `-`, `#`, - `[`, `]`, `<`, `>`"

end IdentifierError

/-- The ways in which a consensus key is malformed once its text is decoded. -/
inductive ConsensusKeyFlaw where
  | empty
  | length (found : Nat)
  | notEd25519
  deriving Repr, DecidableEq

def ConsensusKeyFlaw.message : ConsensusKeyFlaw → String
  | empty => "empty string"
  | length found => "expected 37 bytes, got " ++ toString found
  | notEd25519 => "not an ed25519 public key"

/-- What makes a well-formed message unacceptable to the chain; coins and addresses are given by their texts. -/
inductive MessageFlaw where
  | quantityNotPositive (coin : String)
  | amountNotPositive (coin : String)
  | tokenNotPositive (coin : String)
  | depositNotPositive
  | emptyCoins
  | emptyValidators
  | duplicateValidator (address : String)
  | ownProxy
  | emptyMoniker
  | foreignValidator
  | titleLength
  | descriptionLength
  | emptyVote
  | transferCount
  | missingReceiver
  | noTimeout
  deriving Repr, DecidableEq

def MessageFlaw.message : MessageFlaw → String
  | quantityNotPositive coin => "quantity must be positive: " ++ coin
  | amountNotPositive coin => "amount must be positive: " ++ coin
  | tokenNotPositive coin => "token must be positive: " ++ coin
  | depositNotPositive => "deposit amount must be positive"
  | emptyCoins => "empty coins"
  | emptyValidators => "empty validator address list"
  | duplicateValidator address => "duplicate validator address: " ++ address
  | ownProxy => "delegator cannot bind itself as proxy"
  | emptyMoniker => "empty moniker"
  | foreignValidator => "validator address must be derived from the delegator address"
  | titleLength => "title must be 1-140 characters"
  | descriptionLength => "description must be 1-5000 characters"
  | emptyVote => "empty vote option"
  | transferCount => "transfers must hold 1-1000 units"
  | missingReceiver => "missing receiver address"
  | noTimeout => "timeout height and timeout timestamp cannot both be 0"

inductive ValueError where
  | emptyAddress
  | bech32Decode (text : String) (cause : EncodeError)
  | invalidHrp (expected found : String)
  | invalidAddressLength (expected found : Nat)
  | invalidConsensusKey (flaw : ConsensusKeyFlaw)
  | invalidDecimal (text : String)
  | decimalPrecision (text : String)
  | missingDenom (coin : String)
  | invalidDenom (denom : String)
  | duplicateDenom (denom : String)
  | invalidProposalStatus (status : String)
  | invalidVoteOption (option : String)
  | invalidHeight (text : String)
  | identifier (cause : IdentifierError)
  | invalidMessage (typeName : String) (flaw : MessageFlaw)
  deriving Repr, DecidableEq

namespace ValueError

def message : ValueError → String
  | emptyAddress => "address string cannot be empty"
  | bech32Decode text _ => "decoding bech32 failed: " ++ text
  | invalidHrp expected found => "invalid bech32 prefix, expected: " ++ expected ++ ", got: " ++ found
  | invalidAddressLength expected found =>
    "invalid address length, expected: " ++ toString expected ++ ", got: " ++ toString found
  | invalidConsensusKey flaw => "invalid consensus public key: " ++ flaw.message
  | invalidDecimal text => "invalid decimal string: " ++ Text.quoted text
  | decimalPrecision text => "too much precision in " ++ Text.quoted text ++ ", maximum 18 digits"
  | missingDenom coin => "invalid decimal coin expression, missing denomination: " ++ Text.quoted coin
  | invalidDenom denom => "invalid denomination: " ++ Text.quoted denom
  | duplicateDenom denom => "duplicate denomination: " ++ denom
  | invalidProposalStatus status => "'" ++ status ++ "' is not a valid proposal status"
  | invalidVoteOption option => "'" ++ option ++ "' is not a valid vote option"
  | invalidHeight text => "invalid height: " ++ text
  | identifier _ => "invalid identifier"
  | invalidMessage typeName flaw => "invalid " ++ typeName ++ ": " ++ flaw.message

end ValueError

end ChainClient
