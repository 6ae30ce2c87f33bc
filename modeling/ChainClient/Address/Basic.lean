import ChainClient.Encoding.Bech32.Basic
import ChainClient.Text.Blank
import ChainClient.ValueError

/-!
# Addresses

An address is twenty bytes in one of two roles, account or validator operator. The role is part of the type and decides the human readable part of the text, so a text of one role is never read as the other, while the bytes pass freely between the roles.
-/

namespace ChainClient

inductive Role where
  | account
  | validator
  deriving DecidableEq, Repr

def Role.hrp : Role → String
  | account => "ex"
  | validator => "exvaloper"

/-- Twenty bytes that name an account or a validator operator. -/
structure Address (role : Role) where
  bytes : Bytes
  length_bytes : bytes.length = 20
  deriving DecidableEq

abbrev AccountAddress := Address .account

abbrev ValidatorAddress := Address .validator

namespace Address

variable {role : Role}

def inRole (target : Role) (address : Address role) : Address target := ⟨address.bytes, address.length_bytes⟩

def ofBytes? (bytes : Bytes) : Option (Address role) :=
  if h : bytes.length = 20 then some ⟨bytes, h⟩ else none

/-- The first twenty bytes, filled up with zeros where there are fewer. -/
def ofFirst (bytes : Bytes) : Address role :=
  ⟨(bytes ++ List.replicate 20 0).take 20, by simp⟩

/-- The text of an address; its human readable part is always a valid one. -/
def text (address : Address role) : String :=
  String.ofList (Bech32.assemble role.hrp.toList (Bech32.symbolsOfBytes address.bytes))

def parse (text : String) : Except ValueError (Address role) :=
  if Text.blank text then .error .emptyAddress
  else
    match Bech32.decode text with
    | .error cause => .error (.bech32Decode text cause)
    | .ok (hrp, bytes) =>
      if hrp ≠ role.hrp then .error (.invalidHrp role.hrp hrp)
      else if h : bytes.length = 20 then .ok ⟨bytes, h⟩
      else .error (.invalidAddressLength 20 bytes.length)

end Address

end ChainClient
