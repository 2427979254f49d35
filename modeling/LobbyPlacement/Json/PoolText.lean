import LobbyPlacement.Json.Reader
import LobbyPlacement.Json.Value
import LobbyPlacement.Pool

/-!
# Pools as JSON text

A pool is written as the list of its addresses. A fault of the pool itself comes before anything
that is wrong behind the list.
-/

namespace LobbyPlacement

inductive PoolTextFault
  | json (fault : JsonFault)
  | pool (fault : PoolFault)

def PoolTextFault.message (input : Text.Utf8.Bytes) : PoolTextFault → String
  | json fault => fault.message input
  | pool fault => fault.fault.message

def Pool.json (p : Pool) : Json := .list (p.servers.map .text)

def Pool.ofJson (input : Text.Utf8.Bytes) : Except PoolTextFault Pool := do
  let (servers, rest) ← (JsonText.expectTexts input).mapError .json
  let pool ← (Pool.ofList servers).mapError .pool
  (JsonText.expectEnd rest).mapError .json
  return pool

end LobbyPlacement
