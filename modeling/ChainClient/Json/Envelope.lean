import ChainClient.Json.Wire

/-!
# Enveloped values

A free-form value together with the name of the type it belongs to. Messages inside a transaction and the content of a proposal travel in this form.
-/

namespace ChainClient

structure Envelope where
  typeName : String
  value : Json

namespace Envelope

open Wire in
def wire : Wire Envelope :=
  record (field "type" string <| field "value" freeForm .nil)
    (fun e => (e.typeName, e.value, ()))
    (fun (typeName, value, ()) => { typeName, value })

end Envelope

end ChainClient
