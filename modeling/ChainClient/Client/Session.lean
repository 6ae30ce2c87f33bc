import ChainClient.Client.Config
import ChainClient.Codec.Registry
import ChainClient.Node.Basic
import ChainClient.Wallet.Keyring

/-!
# Sessions and operations

A session is what the operations of a client share: settings, keys, the codec once it is complete, and a node. An operation is a computation that may read the session, put calls to the node and fail; the calls it made stay on record whether it fails or not.
-/

namespace ChainClient

structure Session where
  config : ClientConfig
  keyring : Keyring
  /-- Missing until the modules have registered their types. -/
  codec : Option Codec
  node : Node

abbrev Operation := ReaderT Session (ExceptT ClientError (StateM (List Node.Call)))

def Node.Failure.clientError : Node.Failure → ClientError
  | rpc operation => .rpc operation
  | rejected path code log => .rejectedQuery path code log

namespace Operation

/-- The result of an operation and the calls it made, in order. -/
def run {α : Type} (operation : Operation α) (session : Session) : Except ClientError α × List Node.Call :=
  (ReaderT.run operation session).run.run []

def ofExcept {α : Type} (result : Except ClientError α) : Operation α :=
  match result with
  | .ok value => pure value
  | .error e => throw e

/-- Puts a call to the node. -/
def ask (call : Node.Call) : Operation call.Answer := do
  let session ← read
  let earlier ← get
  set (earlier ++ [call])
  ofExcept ((session.node.answer earlier call).mapError Node.Failure.clientError)

def codec : Operation Codec := do
  let session ← read
  match session.codec with
  | some codec => return codec
  | none => throw .noCodec

end Operation

end ChainClient
