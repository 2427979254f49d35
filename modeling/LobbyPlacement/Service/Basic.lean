import LobbyPlacement.Broker.Publisher
import LobbyPlacement.Bus
import LobbyPlacement.Health
import LobbyPlacement.Journal
import LobbyPlacement.Settings.Validation

/-!
# Services

The whole program at work, a desk with everything around it: the settings it was built from, whether
it runs, what runs beside the requests, and a journal. `serve` gives the desk a piece of work and
lets the gauges keep up with the time it took.
-/

namespace LobbyPlacement

/-- What runs beside the requests: servers, as far as they listen, and the gauges with the time they
are next brought up to date. -/
inductive BackgroundTask
  | monitor (isListening : Bool)
  | api (isListening : Bool)
  | gauges (due : Nat)
deriving DecidableEq, Repr

namespace BackgroundTask

def gaugePeriod : Nat := 30000

/-- The last time up to now at which gauges due at some time have to be updated. -/
def lastDue? (now due : Nat) : Option Nat :=
  if due ≤ now then some (due + (now - due) / gaugePeriod * gaugePeriod) else none

def due? (now : Nat) : BackgroundTask → Option Nat
  | .gauges due => lastDue? now due
  | _ => none

def caughtUp (now : Nat) : BackgroundTask → BackgroundTask
  | .gauges due => .gauges (((lastDue? now due).map (· + gaugePeriod)).getD due)
  | task => task

end BackgroundTask

abbrev Transport := Bus ⊕ BrokerChannel

structure Service (σ : Type) where
  settings : Settings
  desk : Desk σ Transport
  startedAt : Nat
  isRunning : Bool
  isConnected : Bool
  tasks : List BackgroundTask
  journal : Journal

namespace Service

variable {σ : Type}

def now (s : Service σ) : Nat := s.desk.now

def uptimeAt (s : Service σ) (time : Nat) : Nat := time - s.startedAt

def uptimeSeconds (s : Service σ) : Nat := s.uptimeAt s.now / 1000

def note (line : JournalLine) (s : Service σ) : Service σ :=
  { s with journal := s.journal ++ [line] }

def setMetrics (change : Metrics → Metrics) (s : Service σ) : Service σ :=
  { s with desk := { s.desk with metrics := change s.desk.metrics } }

def answersText (answers : Bool) : String := if answers then "true" else "false"

def updateGauges [Store σ] (time : Nat) (s : Service σ) : Service σ :=
  let (desk, reply) := s.desk.pingStore
  let storeAnswers := reply.toBool
  let publisherIsHealthy := desk.publisherIsHealthy
  ({ s with desk := desk }.setMetrics fun m =>
    (((m.setUptime (s.uptimeAt time)).setComponent Health.storeName storeAnswers).setComponent
      Health.publisherName publisherIsHealthy).setHealth
        (Health.overall true storeAnswers publisherIsHealthy).level).note
    (.debug ("Updated health metrics - store: " ++ answersText storeAnswers ++ ", publisher: " ++
      answersText publisherIsHealthy))

/-- Lets everything due up to now happen; `seen` is the time the gauges see, given the time they
were due. -/
def catchUp [Store σ] (seen : Nat → Nat) (s : Service σ) : Service σ :=
  match (s.tasks.filterMap (BackgroundTask.due? s.now)).max? with
  | none => s
  | some due =>
    { s with tasks := s.tasks.map (BackgroundTask.caughtUp s.now) }.updateGauges (seen due)

/-- A piece of work for the desk. While it waits, the gauges are updated in time. -/
def serve [Store σ] {α : Type} (work : Desk σ Transport → Desk σ Transport × α) (s : Service σ) :
    Service σ × α :=
  let (desk, answer) := work s.desk
  ({ s with desk := desk }.catchUp id, answer)

def advance [Store σ] (milliseconds : Nat) (s : Service σ) : Service σ :=
  let time := s.now + milliseconds
  { s with desk := { s.desk with now := time } }.catchUp fun _ => time

end Service

end LobbyPlacement
