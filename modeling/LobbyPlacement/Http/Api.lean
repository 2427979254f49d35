import LobbyPlacement.Http.Answer
import LobbyPlacement.Placement.Desk

/-!
# The placement interface

One route, which answers with the bare address of the server of a lobby. Faults are told without
their texts.
-/

namespace LobbyPlacement.Http

def assignPath : String := "/assign_server"

def lobbyName : String := "lobby_id"

/-- The lobby a query asks for; naming it twice is refused. -/
def lobbyOf (query : String) : Except String (Option String) :=
  match (queryFields query).filter fun field => field.1 = lobbyName with
  | [] => .ok none
  | [field] => .ok (some field.2)
  | _ => .error "Failed to deserialize query string: duplicate field `lobby_id`"

def faultAnswer : Fault → Answer
  | .invalidLobby _ => .plain 400 "invalid lobby_id"
  | .storeUnavailable _ => .plain 503 "assignment store unavailable"
  | _ => .plain 500 "internal error"

def outcomeAnswer : Outcome → Answer
  | .ok placed => .plain 200 placed.server
  | .error fault => faultAnswer fault

variable {σ π : Type} [Store σ] [Publisher π]

/-- Answers a query for a lobby; `none` if the request was lost. -/
def assign (query : String) (d : Desk σ π) : Desk σ π × Option Answer :=
  match lobbyOf query with
  | .error refusal => (d, some (.plain 400 refusal))
  | .ok none => (d, some (.plain 400 "missing lobby_id"))
  | .ok (some lobby) =>
    match d.resolve lobby with
    | (d, .answered outcome) => (d, some (outcomeAnswer outcome))
    | (d, .crashed) => (d, none)

def api (d : Desk σ π) (method : Method) (t : Target) : Desk σ π × Option Answer :=
  if t.path = assignPath then method.answer d (assign t.query) else (d, some .notFound)

end LobbyPlacement.Http
