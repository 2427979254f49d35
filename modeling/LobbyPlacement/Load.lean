/-!
# Loads

How many lobbies each server hosts, and the choice between servers: the first of those with the
fewest.
-/

namespace LobbyPlacement

structure Load where
  server : String
  lobbies : Nat
deriving DecidableEq, Repr

namespace Load

/-- The better of the best so far and the next load; the earlier one wins a tie. -/
def better (best : Option Load) (next : Load) : Option Load :=
  match best with
  | none => some next
  | some current => if current.lobbies ≤ next.lobbies then some current else some next

def least (loads : List Load) : Option Load := loads.foldl better none

def zero (servers : List String) : List Load := servers.map fun server => ⟨server, 0⟩

/-- One more lobby on the first entry of a server; an unknown server counts nowhere. -/
def credit (server : String) : List Load → List Load
  | [] => []
  | load :: rest =>
    if load.server = server then ⟨server, load.lobbies + 1⟩ :: rest
    else load :: credit server rest

end Load

end LobbyPlacement
