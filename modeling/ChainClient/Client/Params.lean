import ChainClient.Client.Error
import ChainClient.Encoding.Hex
import ChainClient.Wallet.Keyring

/-!
# Checking arguments

Every argument of an operation is checked before the node hears of it. Lists of validators are compared by what they denote, so two spellings of one address collide.
-/

namespace ChainClient.Params

attribute [local instance (high + 1)] instPowNat

def checkKey (key : KeyInfo) (password : String) : Except ClientError Unit := do
  if Text.blank key.name then throw (.invalidParam "from" .emptyKeyName)
  if password.isEmpty then throw .emptyPassword

def checkCoin (text : String) : Except ClientError Coin := (Coin.parse text).mapError .value

/-- A list of coins that is not empty. -/
def checkCoins (text : String) : Except ClientError (List Coin) := do
  let coins ← (Coin.parseList text).mapError .value
  if coins.isEmpty then throw (.invalidParam "coins" .emptyCoins)
  return coins

def checkAccount (name text : String) : Except ClientError AccountAddress :=
  if Text.blank text then .error (.invalidParam name .emptyAddress) else (Address.parse text).mapError .value

def checkValidator (text : String) : Except ClientError ValidatorAddress :=
  if Text.blank text then .error (.invalidParam "val_addr" .emptyValidator) else (Address.parse text).mapError .value

/-- The text of the first address that occurs among those before it. -/
def repeated? (seen : List ValidatorAddress) : List (ValidatorAddress × String) → Option String
  | [] => none
  | (address, text) :: rest => if address ∈ seen then some text else repeated? (address :: seen) rest

def checkValidators (texts : List String) : Except ClientError (List ValidatorAddress) := do
  if texts.isEmpty then throw (.invalidParam "val_addrs" .emptyValidators)
  let addresses ← texts.mapM fun text => (Address.parse text).mapError .value
  match repeated? [] (addresses.zip texts) with
  | some text => throw (.invalidParam "val_addrs" (.duplicateValidator text))
  | none => return addresses

def checkProposal (id : UInt64) : Except ClientError Unit :=
  if id = 0 then .error (.invalidParam "proposal_id" .proposalZero) else .ok ()

def checkPage (page limit : UInt32) : Except ClientError Unit := do
  if page = 0 then throw (.invalidParam "page" .pageZero)
  if limit = 0 then throw (.invalidParam "limit" .limitZero)

def checkPositive (name : String) (value : UInt32) : Except ClientError Unit :=
  if value = 0 then .error (.invalidParam name .zero) else .ok ()

/-- A height above zero that fits into 32 bits. -/
def checkHeight (height : Int64) : Except ClientError UInt32 :=
  if height.toInt ≤ 0 then .error (.invalidParam "height" (.heightNotPositive height))
  else if 2 ^ (32 : Nat) ≤ height.toInt then .error (.invalidParam "height" (.heightTooLarge height))
  else .ok (UInt32.ofNat height.toInt.toNat)

/-- Payments, one on each line: an address, blanks and coins. -/
def parsePayments (text : String) : Except ClientError (List Transfer.Payment) :=
  (Text.lines (Text.trimChars text.toList)).mapM fun line =>
    match Text.words line with
    | [receiver, coins] => do
      let receiver ← checkAccount "to" (String.ofList receiver)
      let coins ← (Coin.parseList (String.ofList coins)).mapError .value
      return { receiver, coins }
    | _ => throw (.invalidParam "transfers" (.transferLine (String.ofList line)))

/-- A condition `key='value'` for each pair `key=value`; pairs are joined by `&`, conditions by `AND`. -/
def eventsQuery (events : String) : Except ClientError String := do
  if Text.blank events then throw (.invalidParam "events" .emptyEvents)
  let conditions ← (Text.splitOn '&' events.toList).mapM fun pair =>
    match (Text.splitOnce '=' pair).filter fun (_, value) => !value.contains '=' with
    | none => throw (.invalidParam "events" (.eventPair (String.ofList pair)))
    | some (key, value) =>
      let key := Text.trimChars key
      let value := Text.trimChars value
      if key.isEmpty || value.isEmpty then throw (.invalidParam "events" (.emptyEventPart (String.ofList pair)))
      else return String.ofList (key ++ '=' :: '\'' :: value ++ ['\''])
  return String.intercalate " AND " conditions

/-- The order that a text asks for; no text asks for the ascending one. -/
def searchOrder? (text : String) : Option Node.SearchOrder :=
  let name := Text.trim text
  if name = "" ∨ name = "asc" then some .ascending else if name = "desc" then some .descending else none

/-- Hexadecimal text of so many bytes, after a mark `0x` or `0X` that may be missing, between blanks. -/
def fixedHex? (length : Nat) (text : String) : Option Bytes :=
  let cs := Text.trimChars text.toList
  let digits := match cs with
    | '0' :: 'x' :: rest => rest
    | '0' :: 'X' :: rest => rest
    | _ => cs
  (Hex.pairs? digits).filter fun bytes => bytes.length = length

def checkFixedHex (name : String) (length : Nat) (text : String) : Except ClientError Bytes :=
  match fixedHex? length text with
  | some bytes => .ok bytes
  | none => .error (.invalidParam name .form)

/-- A hash of 32 bytes in hexadecimal. -/
def checkHash (hash : String) : Except ClientError Bytes := do
  let bytes ← (Hex.decode hash).mapError .encoding
  if bytes.length ≠ 32 then throw (.invalidParam "hash" (.hashLength bytes.length))
  return bytes

end ChainClient.Params
