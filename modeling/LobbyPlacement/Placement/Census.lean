import LobbyPlacement.Load
import LobbyPlacement.Store.Call

/-!
# The census

Counting the lobbies of every server: one listing of all keys, then one read per listed key. Keys
that vanished and servers not asked about count nowhere; the first fault ends the count.
`Tally` is the machine, one store call at a time, and `count` runs it to its end.
-/

namespace LobbyPlacement

/-- The pattern that every key matches. -/
def everyKey : String := "*"

/-- A count under way: the loads so far, the key to read next and the listing behind it. -/
structure Census where
  loads : List Load
  key : String
  rest : List (Except Fault String)

inductive Tally
  | reading (census : Census)
  | counted (loads : List Load)
  | failed (fault : Fault)

namespace Tally

/-- Where a count stands in front of the rest of the listing. -/
def before (loads : List Load) : List (Except Fault String) → Tally
  | [] => counted loads
  | .error fault :: _ => failed fault
  | .ok key :: rest => reading ⟨loads, key, rest⟩

def remaining : Tally → Nat
  | reading census => census.rest.length + 1
  | _ => 0

theorem remaining_before_le (loads : List Load) (rest : List (Except Fault String)) :
    (before loads rest).remaining ≤ rest.length := by
  cases rest with
  | nil => simp [before, remaining]
  | cons item rest => cases item <;> simp [before, remaining]

/-- A count over the answer to the listing. -/
def ofListing (servers : List String) : Except Fault (List (Except Fault String)) → Tally
  | .error fault => failed fault
  | .ok listing => before (Load.zero servers) listing

end Tally

namespace Census

def read (c : Census) : Except Fault (Option String) → Tally
  | .error fault => .failed fault
  | .ok none => .before c.loads c.rest
  | .ok (some server) => .before (Load.credit server c.loads) c.rest

theorem remaining_read_lt (c : Census) (reply : Except Fault (Option String)) :
    (c.read reply).remaining < (Tally.reading c).remaining := by
  have bound := fun loads => Tally.remaining_before_le loads c.rest
  rcases reply with _ | _ | server
  · simp [read, Tally.remaining]
  · have := bound c.loads
    simp only [read, Tally.remaining] at *
    omega
  · have := bound (Load.credit server c.loads)
    simp only [read, Tally.remaining] at *
    omega

end Census

def Tally.finish {σ : Type} [Store σ] (store : σ) : Tally → σ × Except Fault (List Load)
  | counted loads => (store, .ok loads)
  | failed fault => (store, .error fault)
  | reading census =>
    let (store, reply) := Store.perform store (.get census.key)
    (census.read reply).finish store
termination_by tally => tally.remaining
decreasing_by exact census.remaining_read_lt _

namespace Census

def emptyPool : Fault := .configuration "cannot estimate load over an empty server pool"

def count {σ : Type} [Store σ] (store : σ) (servers : List String) :
    σ × Except Fault (List Load) :=
  if servers.isEmpty then (store, .error emptyPool)
  else
    let (store, reply) := Store.perform store (.scan everyKey)
    (Tally.ofListing servers reply).finish store

def leastLoaded {σ : Type} [Store σ] (store : σ) (servers : List String) :
    σ × Except Fault String :=
  match count store servers with
  | (store, .error fault) => (store, .error fault)
  | (store, .ok counted) =>
    match Load.least counted with
    | some load => (store, .ok load.server)
    | none => (store, .error emptyPool)

end Census

end LobbyPlacement
