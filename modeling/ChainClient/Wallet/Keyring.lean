import ChainClient.Tx.Basic
import ChainClient.Wallet.KeyPair

/-!
# The keyring

Keys by name, each locked with a password of which only the digest is kept. A name is taken once and for all by the first key that is created under it.
-/

namespace ChainClient

structure KeyInfo where
  name : String
  address : AccountAddress
  publicKey : Bytes
  deriving DecidableEq

/-- The public key as transactions carry it. -/
def KeyInfo.txPublicKey (info : KeyInfo) : PublicKey := PublicKey.ofCompressed info.publicKey

structure StoredKey where
  keyPair : KeyPair
  info : KeyInfo
  passwordDigest : Bytes
  deriving DecidableEq

structure Keyring where
  keys : List StoredKey
  deriving DecidableEq

namespace Keyring

def empty : Keyring := ⟨[]⟩

def find? (ring : Keyring) (name : String) : Option StoredKey := ring.keys.find? fun key => key.info.name == name

/-- What is done to a keyring. It may fail, and what was done before it failed stays done. -/
abbrev Action := ExceptT ClientError (StateM Keyring)

/-- The result of an action and the keyring that it leaves behind. -/
def Action.run {α : Type} (action : Action α) (ring : Keyring) : Except ClientError α × Keyring :=
  (ExceptT.run action).run ring

/-- Puts a key under its name, if that is not taken. -/
def store (key : StoredKey) : Action Unit := do
  let ring ← get
  if (ring.find? key.info.name).isSome then throw (.keyExists key.info.name)
  set (⟨key :: ring.keys⟩ : Keyring)

/-- Stores the key of a mnemonic under a name. -/
def create (phrase name password : String) : Action KeyInfo := do
  if Text.blank name then throw (.invalidParam "name" .emptyKeyName)
  if password.isEmpty then throw .emptyPassword
  let keyPair ← KeyPair.ofMnemonic phrase HdPath.chainDefault
  let info : KeyInfo := { name, address := keyPair.address, publicKey := keyPair.publicBytes }
  store { keyPair, info, passwordDigest := Sha256.hash (Bytes.ofText password) }
  return info

def keyInfo (ring : Keyring) (name : String) : Except ClientError KeyInfo :=
  match ring.find? name with
  | some key => .ok key.info
  | none => .error (.keyNotFound name)

/-- The key of a name, for those who know its password. -/
def unlocked (ring : Keyring) (name password : String) : Except ClientError StoredKey :=
  match ring.find? name with
  | some key =>
    if Sha256.hash (Bytes.ofText password) = key.passwordDigest then .ok key else .error (.wrongPassword name)
  | none => .error (.keyNotFound name)

def unlock (ring : Keyring) (name password : String) : Except ClientError KeyInfo :=
  (ring.unlocked name password).map StoredKey.info

def sign (ring : Keyring) (name password : String) (message : Bytes) : Except ClientError Signature :=
  (ring.unlocked name password).map fun key =>
    { publicKey := key.info.txPublicKey, signature := Base64.encode (key.keyPair.sign message) }

end Keyring

end ChainClient
