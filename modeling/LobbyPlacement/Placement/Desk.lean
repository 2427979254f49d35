import LobbyPlacement.Metrics.Gauges
import LobbyPlacement.Placement.Request
import LobbyPlacement.Publisher

/-!
# The desk

The coordinator that assigns servers to lobbies, with all it holds: its pool and limits, its store,
its publisher, a clock in milliseconds, its statistics and its metrics. `step` carries out the
effect a request waits for, folds its notes into the statistics and the metrics and hands it the
reply; `resolve` does so until the request is answered.
-/

namespace LobbyPlacement

/-- What the service counts by itself. -/
structure Stats where
  requests : Nat
  hits : Nat
  created : Nat
  lostRaces : Nat
  clientErrors : Nat
  failures : Nat
  publishFailures : Nat
  serializationFailures : Nat
deriving DecidableEq, Repr

namespace Stats

def zero : Stats := ⟨0, 0, 0, 0, 0, 0, 0, 0⟩

def record (s : Stats) : Note → Stats
  | .found => { s with hits := s.hits + 1 }
  | .adopted => { s with lostRaces := s.lostRaces + 1 }
  | .counted _ => s
  | .created _ => { s with created := s.created + 1 }
  | .announced true => s
  | .announced false => { s with publishFailures := s.publishFailures + 1 }
  | .answered ending =>
    let s := { s with requests := s.requests + 1 }
    match ending with
    | .clientError => { s with clientErrors := s.clientErrors + 1 }
    | .storeError | .failed => { s with failures := s.failures + 1 }
    | .hit | .created | .lostRace => s

end Stats

def Metrics.record (channel : String) (micros : Nat) (m : Metrics) : Note → Metrics
  | .found => m
  | .adopted => m
  | .counted loads => m.recordCount loads micros
  | .created server => m.recordCreated server
  | .announced confirmed => m.recordAnnounced channel confirmed
  | .answered ending => m.recordRequest ending micros

structure Desk (σ π : Type) where
  rules : Rules
  store : σ
  publisher : π
  now : Nat
  stats : Stats
  metrics : Metrics

structure Ticket where
  lobby : String
  started : Nat
  phase : Phase

namespace Desk

variable {σ π : Type}

def record (d : Desk σ π) (started : Nat) (note : Note) : Desk σ π :=
  { d with
    stats := d.stats.record note
    metrics := d.metrics.record d.rules.channel ((d.now - started) * 1000) note }

def recordAll (d : Desk σ π) (started : Nat) (notes : List Note) : Desk σ π :=
  notes.foldl (fun d note => d.record started note) d

def begin (d : Desk σ π) (lobby : String) : Desk σ π × Progress :=
  let move := Placement.start lobby
  (d.recordAll d.now move.notes, move.progress)

/-- Publishes an announcement. It takes no longer than the limit, and what has not been confirmed
by then is not confirmed at all. -/
def announce [Publisher π] (d : Desk σ π) (a : Announcement) : Desk σ π × Delivery :=
  let limit := d.rules.announceLimit
  let (publisher, attempt) :=
    Publisher.publish d.publisher d.now limit d.rules.channel a.encode
  let d := { d with publisher := publisher }
  match attempt with
  | .crashed after => ({ d with now := d.now + after }, .crashed)
  | .pending => ({ d with now := d.now + limit }, .unconfirmed)
  | .settled after result =>
    if after ≤ limit then
      ({ d with now := d.now + after }, match result with
        | .ok () => .confirmed
        | .error _ => .unconfirmed)
    else ({ d with now := d.now + limit }, .unconfirmed)

def carryOut [Store σ] [Publisher π] (d : Desk σ π) : (e : Effect) → Desk σ π × e.Reply
  | .store call =>
    let (store, reply) := Store.perform d.store call
    ({ d with store := store }, reply)
  | .announce a => d.announce a

def step [Store σ] [Publisher π] (d : Desk σ π) (t : Ticket) : Desk σ π × Progress :=
  let (d, reply) := d.carryOut (t.phase.effect t.lobby)
  let move := Placement.resume d.rules t.lobby t.phase reply
  (d.recordAll t.started move.notes, move.progress)

theorem closer_step [Store σ] [Publisher π] (d : Desk σ π) (t : Ticket) :
    Placement.Closer ((d.step t).2.stage, (d.step t).2.remaining)
      (t.phase.stage, t.phase.remaining) :=
  Placement.rank_resume_lt _ _ _ _

/-- How a request leaves the desk: answered, or lost with the publisher. -/
inductive Leaving
  | answered (outcome : Outcome)
  | crashed

/-- A request brought to its end without another one in between. -/
def finish [Store σ] [Publisher π] (d : Desk σ π) (lobby : String) (started : Nat) :
    Progress → Desk σ π × Leaving
  | .answered outcome => (d, .answered outcome)
  | .crashed => (d, .crashed)
  | .waiting phase =>
    let next := d.step ⟨lobby, started, phase⟩
    next.1.finish lobby started next.2
termination_by p => (p.stage, p.remaining)
decreasing_by exact d.closer_step ⟨lobby, started, phase⟩

/-- The server of a lobby, placed now if it has none. -/
def resolve [Store σ] [Publisher π] (d : Desk σ π) (lobby : String) : Desk σ π × Leaving :=
  let (begun, progress) := d.begin lobby
  begun.finish lobby d.now progress

/-- The stored server of a lobby; nothing is placed. -/
def lookup [Store σ] (d : Desk σ π) (lobby : String) :
    Desk σ π × Except Fault (Option String) :=
  match Placement.checkLobby lobby with
  | .error fault => (d, .error fault)
  | .ok () =>
    let (store, reply) := Store.perform d.store (.get lobby)
    ({ d with store := store }, reply)

/-- The loads of all servers of the pool, which also go into the metrics. -/
def loads [Store σ] (d : Desk σ π) : Desk σ π × Except Fault (List Load) :=
  match Census.count d.store d.rules.pool.servers with
  | (store, .error fault) => ({ d with store := store }, .error fault)
  | (store, .ok counted) =>
    ({ d with store := store, metrics := d.metrics.setLoads counted }, .ok counted)

def pingStore [Store σ] (d : Desk σ π) : Desk σ π × Except Fault Unit :=
  let (store, reply) := Store.perform d.store .ping
  ({ d with store := store }, reply)

def publisherIsHealthy [Publisher π] (d : Desk σ π) : Bool := Publisher.isHealthy d.publisher

def opening (rules : Rules) (store : σ) (publisher : π) : Desk σ π :=
  ⟨rules, store, publisher, 0, .zero, .empty⟩

end Desk

end LobbyPlacement
