/-!
# Why an encoding is refused
-/

namespace ChainClient

/-- The ways in which encoding or decoding bytes fails. -/
inductive EncodeError where
  | bech32Encode
  | bech32Decode
  | bech32Variant (hrp : String)
  | protobufDecode
  | base64Decode
  | hexDecode
  deriving Repr, DecidableEq

namespace EncodeError

def message : EncodeError → String
  | bech32Encode => "encode bech32 error"
  | bech32Decode => "decode bech32 error"
  | bech32Variant hrp => "bech32m encoding is not accepted, hrp: " ++ hrp
  | protobufDecode => "protobuf decode error"
  | base64Decode => "decode base64 error"
  | hexDecode => "decode hex error"

end EncodeError

end ChainClient
