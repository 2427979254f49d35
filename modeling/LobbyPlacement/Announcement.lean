import LobbyPlacement.Fault
import LobbyPlacement.Json.Reader
import LobbyPlacement.Json.Value

/-!
# Announcements

What is told to the outside when a lobby gets its server, and its wire form: one JSON record of two
texts. `decode` also takes a list of the two texts, and skips names it does not know.
-/

namespace LobbyPlacement

structure Announcement where
  lobby : String
  server : String
deriving DecidableEq, Repr

namespace Announcement

open JsonText Text.Utf8

/-- The channel announcements go to unless another is configured. -/
def defaultChannel : String := "game_servers"

def contentType : String := "application/json"

def lobbyField : String := "game_id"

def serverField : String := "server_address"

def json (a : Announcement) : Json :=
  .record [(lobbyField, .text a.lobby), (serverField, .text a.server)]

def encode (a : Announcement) : Bytes := Text.Utf8.encode a.json.compact

def missing (field : String) (rest : Bytes) : JsonFault :=
  .before (.unexpected ("missing field `" ++ field ++ "`")) (behindRecord rest)

def duplicate (field : String) (rest : Bytes) : JsonFault :=
  .before (.unexpected ("duplicate field `" ++ field ++ "`")) (behindRecord rest)

/-- The fields of a record from here on, after those that were read. -/
def fieldsFrom (first : Bool) (lobby server : Option String) (input : Bytes) :
    Except JsonFault (Announcement × Bytes) :=
  match nextName first input with
  | .error fault => .error fault
  | .ok none =>
    match lobby, server with
    | none, _ => .error (missing lobbyField input)
    | some _, none => .error (missing serverField input)
    | some lobby, some server => .ok (⟨lobby, server⟩, input)
  | .ok (some opened) =>
    match text opened.1 with
    | .error fault => .error fault
    | .ok (name, named) =>
      have := opened.2
      have := named.2
      if name = lobbyField && lobby.isSome then .error (duplicate lobbyField named.1)
      else if name = serverField && server.isSome then .error (duplicate serverField named.1)
      else match afterColon named.1 with
        | .error fault => .error fault
        | .ok value =>
          have := value.2
          if name = lobbyField || name = serverField then
            match expectText value.1 with
            | .error fault => .error fault
            | .ok (s, after) =>
              have := after.2
              if name = lobbyField then fieldsFrom false (some s) server after.1
              else fieldsFrom false lobby (some s) after.1
          else match skipFrom .value [] value.1 with
            | .error fault => .error fault
            | .ok after =>
              have := after.2
              fieldsFrom false lobby server after.1
termination_by input.length
decreasing_by all_goals omega

def tooShort (length : Nat) (rest : Bytes) : JsonFault :=
  .before (.unexpected ("invalid length " ++ Text.decimal length ++
    ", expected struct AssignmentEvent with 2 elements")) (behindList rest)

/-- The two items of a list. -/
def items (input : Bytes) : Except JsonFault (Announcement × Bytes) := do
  match ← nextItem true input with
  | none => .error (tooShort 0 input)
  | some first =>
    let (lobby, rest) ← expectText first.1
    match ← nextItem false rest.1 with
    | none => .error (tooShort 1 rest.1)
    | some second =>
      let (server, rest) ← expectText second.1
      .ok (⟨lobby, server⟩, rest.1)

def read (input : Bytes) : Except JsonFault (Announcement × Bytes) :=
  match skipBlanks input with
  | [] => .error (.within .endInValue [])
  | b :: rest =>
    if b = 91 then do
      let (a, rest) ← items rest
      return (a, ← closeList rest)
    else if b = 123 then do
      let (a, rest) ← fieldsFrom true none none rest
      return (a, ← closeRecord rest)
    else .error (unexpectedValue "struct AssignmentEvent" (b :: rest))

def decode (input : Bytes) : Except JsonFault Announcement := do
  let (a, rest) ← read input
  expectEnd rest
  return a

def undecodable (input : Bytes) (f : JsonFault) : Fault :=
  .serialization ("Failed to deserialize assignment event: " ++ f.message input)

end Announcement

end LobbyPlacement
