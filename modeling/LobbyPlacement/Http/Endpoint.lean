import LobbyPlacement.Text.Numeral

/-!
# Asking a service for its health

Where a service is reached that listens at a host, and what its answer says.
-/

namespace LobbyPlacement

inductive EndpointStatus
  | healthy
  | unhealthy (code : Nat)
  | unreachable
deriving DecidableEq, Repr

namespace EndpointStatus

def text : EndpointStatus → String
  | healthy => "healthy"
  | unhealthy code => "unhealthy (HTTP " ++ Text.decimal code ++ ")"
  | unreachable => "unreachable"

def isHealthy : EndpointStatus → Bool
  | healthy => true
  | _ => false

/-- The status that an answer's code tells; no answer means out of reach. -/
def ofCode : Option Nat → EndpointStatus
  | some code => if 200 ≤ code && code < 300 then healthy else unhealthy code
  | none => unreachable

end EndpointStatus

/-- Hosts that stand for all interfaces are reached on the loopback interface. -/
def endpointAddress (host : String) (port : Nat) : String :=
  let reached :=
    if host = "0.0.0.0" || host = "" then "127.0.0.1"
    else if host = "::" || host = "[::]" then "[::1]"
    else host
  reached ++ ":" ++ Text.decimal port

end LobbyPlacement
