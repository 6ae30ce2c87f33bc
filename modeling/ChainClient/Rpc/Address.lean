import ChainClient.Client.Error
import ChainClient.Host.DomainName
import ChainClient.Host.Ip

/-!
# Addresses of servers

A client is made for an address before anything is sent. The address has a scheme, the name of a host, perhaps with a user in front of it and a port behind it, and whatever follows. For the schemes of the web the host is a domain name or a numeric address, and slashes may lean either way or be missing; for the plain one the host is any text and there must be a port.
-/

namespace ChainClient.Rpc

attribute [local instance (high + 1)] instPowNat

open Host

/-- The text without control characters and spaces around it, and without the line ends and tabulators in it. -/
private def significant (uri : String) : List Char :=
  let edge (c : Char) : Bool := c.toNat ≤ 0x20
  (((uri.toList.dropWhile edge).reverse.dropWhile edge).reverse).filter fun c => c != '\t' && c != '\n' && c != '\r'

inductive Scheme where
  | web
  | plain
  deriving DecidableEq, Repr

private def isSchemeChar (c : Char) : Bool := c.isAlphanum || c == '+' || c == '-' || c == '.'

/-- The scheme in front of the first colon, and what comes after the colon. -/
private def scheme? (cs : List Char) : Option (Scheme × List Char) :=
  match cs.dropWhile isSchemeChar with
  | ':' :: rest =>
    match String.ofList ((cs.takeWhile isSchemeChar).map Char.toLower) with
    | "http" => some (.web, rest)
    | "https" => some (.web, rest)
    | "tcp" => some (.plain, rest)
    | _ => none
  | _ => none

/-- What comes after the slashes up to the path, the query or the fragment. -/
private def authority? (scheme : Scheme) (cs : List Char) : Option (List Char) :=
  match scheme, cs with
  | .web, cs => some ((cs.dropWhile fun c => c == '/' || c == '\\').takeWhile fun c => !"/\\?#".toList.contains c)
  | .plain, '/' :: '/' :: cs => some (cs.takeWhile fun c => !"/?#".toList.contains c)
  | .plain, _ => none

/-- What comes after the last `@`. -/
private def withoutUser (authority : List Char) : List Char := (authority.reverse.takeWhile (· != '@')).reverse

/-- The host in front of the first colon outside of brackets, and the rest. -/
private def splitHost : Bool → List Char → List Char × List Char
  | _, [] => ([], [])
  | bracketed, c :: cs =>
    if c = ':' ∧ !bracketed then ([], c :: cs)
    else
      let (host, rest) := splitHost (c = '[' ∨ (c ≠ ']' ∧ bracketed)) cs
      (c :: host, rest)

/-- The content of brackets around a host. -/
private def inBrackets? (host : List Char) : Option (List Char) :=
  match host with
  | '[' :: cs => if cs.getLast? = some ']' then some cs.dropLast else none
  | _ => none

/-- The bytes of a text in which two hexadecimal digits after a percent sign are a byte. -/
private def percentDecode : List Char → Bytes
  | '%' :: high :: low :: cs =>
    match Hex.digit? high, Hex.digit? low with
    | some h, some l => UInt8.ofNat (16 * h + l) :: percentDecode cs
    | _, _ => Bytes.ofText "%" ++ percentDecode (high :: low :: cs)
  | c :: cs => Bytes.ofText (String.singleton c) ++ percentDecode cs
  | [] => []

/-- A domain name that is not empty; one that ends in a number is an address of version four. -/
private def isDomain (host : List Char) : Bool :=
  match (Bytes.toText? (percentDecode host)).bind fun text => labels? text.toList with
  | some labels => labels != [[]] && (!endsInNumber labels || isIpv4 labels)
  | none => false

/-- Characters that cannot be in a host of any kind. -/
private def isDelimiter (c : Char) : Bool := "\x00\t\n\r #/:<>?@[\\]^|".toList.contains c

private def isHost (scheme : Scheme) (host : List Char) : Bool :=
  if host.head? = some '[' then (inBrackets? host).any isIpv6
  else match scheme with
    | .web => isDomain host
    | .plain => !host.isEmpty && !host.any isDelimiter

/-- Whether a colon with a port comes after a host. A backslash ends the port of a plain address. -/
private def isPort (scheme : Scheme) (rest : List Char) : Bool :=
  let ds := (rest.drop 1).takeWhile Char.isDigit
  let behind := (rest.drop 1).dropWhile Char.isDigit
  (behind.isEmpty || behind.head? == some '\\') && Text.digitsValue ds < 2 ^ (16 : Nat) && (scheme == .web || !ds.isEmpty)

/-- Whether a client can be made for an address. -/
def isServerAddress (uri : String) : Bool :=
  let parts := do
    let (scheme, rest) ← scheme? (significant uri)
    return (scheme, splitHost false (withoutUser (← authority? scheme rest)))
  parts.any fun (scheme, host, rest) => isHost scheme host && isPort scheme rest

def checkAddress (uri : String) : Except ClientError Unit :=
  if isServerAddress uri then .ok () else .error (.rpcAddress uri)

end ChainClient.Rpc
