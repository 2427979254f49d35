/-!
# Faults

What can go wrong while a lobby is placed, and how it is told. Only an invalid lobby is the
caller's doing.
-/

namespace LobbyPlacement

inductive Fault
  | invalidLobby (reason : String)
  | storeUnavailable (text : String)
  | configuration (text : String)
  | serialization (text : String)
  | publish (text : String)
  | connection (text : String)
  | internal (text : String)
deriving DecidableEq, Repr

namespace Fault

def message : Fault → String
  | invalidLobby reason => "Invalid lobby request: " ++ reason
  | storeUnavailable text => "Assignment store unavailable: " ++ text
  | configuration text => "Configuration error: " ++ text
  | serialization text => "Event serialization failed: " ++ text
  | publish text => "Event publish failed: " ++ text
  | connection text => "Broker connection failed: " ++ text
  | internal text => "Internal service error: " ++ text

def isClientError : Fault → Bool
  | invalidLobby _ => true
  | _ => false

end Fault

end LobbyPlacement
