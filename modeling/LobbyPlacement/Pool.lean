import LobbyPlacement.Fault
import LobbyPlacement.Text.Split

/-!
# Server pools

The servers that new lobbies may go to, in the order that decides between equal loads. A pool has
at least one server, no blank address and no address twice; `ofList` accepts exactly the lists
with these properties and otherwise names the first fault.
-/

namespace LobbyPlacement

inductive PoolFault
  | empty
  | blank
  | duplicate (server : String)
deriving DecidableEq, Repr

namespace PoolFault

def message : PoolFault → String
  | empty => "backend server pool cannot be empty"
  | blank => "backend server address cannot be blank"
  | duplicate server => "duplicate backend server address: " ++ server

def fault (f : PoolFault) : Fault := .configuration f.message

end PoolFault

structure Pool where
  servers : List String
  nonempty : servers ≠ []
  noneBlank : ∀ server ∈ servers, Text.isBlankText server = false
  distinct : servers.Nodup

namespace Pool

/-- The fault at the first address that is blank or was seen before. -/
def firstFault? (seen : List String) : List String → Option PoolFault
  | [] => none
  | server :: rest =>
    if Text.isBlankText server then some .blank
    else if server ∈ seen then some (.duplicate server)
    else firstFault? (server :: seen) rest

theorem firstFault?_eq_none_iff {seen servers : List String} :
    firstFault? seen servers = none ↔
      (∀ server ∈ servers, Text.isBlankText server = false) ∧ servers.Nodup ∧
        ∀ server ∈ servers, server ∉ seen := by
  induction servers generalizing seen with
  | nil => simp [firstFault?]
  | cons server rest ih =>
    by_cases blank : Text.isBlankText server = true
    · simp [firstFault?, blank]
    · by_cases repeated : server ∈ seen
      · simp [firstFault?, blank, repeated]
      · simp only [firstFault?, blank, repeated, List.mem_cons, List.nodup_cons]
        grind

def ofList (servers : List String) : Except PoolFault Pool :=
  if full : servers = [] then .error .empty
  else match accepted : firstFault? [] servers with
    | some fault => .error fault
    | none =>
      .ok ⟨servers, full, (firstFault?_eq_none_iff.1 accepted).1,
        (firstFault?_eq_none_iff.1 accepted).2.1⟩

def ofText (text : String) : Except PoolFault Pool := ofList (Text.splitEntries text)

def size (p : Pool) : Nat := p.servers.length

def contains (p : Pool) (server : String) : Bool := p.servers.contains server

def text (p : Pool) : String := "[" ++ ", ".intercalate p.servers ++ "]"

end Pool

end LobbyPlacement
