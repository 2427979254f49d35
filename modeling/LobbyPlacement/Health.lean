import LobbyPlacement.Placement.Desk
import LobbyPlacement.Product
import LobbyPlacement.Settings.Document

/-!
# Health

How well a service is: it has to run and to reach its store, and a publisher that is not connected
only degrades it. `assess` looks at these three components, `overall` sums them up.
-/

namespace LobbyPlacement

inductive HealthStatus
  | healthy
  | degraded
  | unhealthy
deriving DecidableEq, Repr

namespace HealthStatus

def name : HealthStatus → String
  | healthy => "healthy"
  | degraded => "degraded"
  | unhealthy => "unhealthy"

def display : HealthStatus → String
  | healthy => "✅ healthy"
  | degraded => "⚠️  degraded"
  | unhealthy => "❌ unhealthy"

def choices : List (String × HealthStatus) :=
  [healthy, degraded, unhealthy].map fun s => (s.name, s)

def ofName (s : String) : Except DocumentFault HealthStatus := Document.choose choices s

def level : HealthStatus → Nat
  | healthy => 2
  | degraded => 1
  | unhealthy => 0

def ifAnswers (answers : Bool) : HealthStatus := if answers then healthy else unhealthy

end HealthStatus

/-- One component as a check found it; the message tells what is wrong. -/
structure ComponentCheck where
  name : String
  status : HealthStatus
  message : Option String
deriving DecidableEq, Repr

namespace Health

def storeName : String := "assignment_store"

def publisherName : String := "event_publisher"

def serviceCheck (isRunning : Bool) : ComponentCheck :=
  ⟨"service_running", .ifAnswers isRunning,
    if isRunning then none else some "Service is not running"⟩

def storeCheck (answers : Bool) : ComponentCheck :=
  ⟨storeName, .ifAnswers answers, if answers then none else some "Assignment store unreachable"⟩

def publisherCheck (isHealthy : Bool) : ComponentCheck :=
  ⟨publisherName, if isHealthy then .healthy else .degraded,
    if isHealthy then none else some "Event publisher is not connected"⟩

/-- All components, in the order in which they are reported. -/
def assess (isRunning storeAnswers publisherIsHealthy : Bool) : List ComponentCheck :=
  [serviceCheck isRunning, storeCheck storeAnswers, publisherCheck publisherIsHealthy]

def overall (isRunning storeAnswers publisherIsHealthy : Bool) : HealthStatus :=
  if !isRunning || !storeAnswers then .unhealthy
  else if publisherIsHealthy then .healthy
  else .degraded

end Health

structure HealthReport where
  service : String
  status : HealthStatus
  checks : List ComponentCheck
  stats : Stats
  uptimeSeconds : Nat

/-- A check takes no time on the clock of the service. -/
def ComponentCheck.json (c : ComponentCheck) : Json := .record [("name", .text c.name),
  ("status", .text c.status.name),
  ("message", match c.message with
    | some m => .text m
    | none => .null),
  ("duration_ms", .number 0)]

namespace HealthReport

def json (stamp : String) (r : HealthReport) : Json := .record [("status", .text r.status.name),
  ("service", .text r.service), ("version", .text Product.version), ("timestamp", .text stamp),
  ("checks", .list (r.checks.map ComponentCheck.json)),
  ("stats", .record [("requests", .number r.stats.requests), ("hits", .number r.stats.hits),
    ("assignments_created", .number r.stats.created),
    ("lost_races", .number r.stats.lostRaces), ("failures", .number r.stats.failures),
    ("publish_failures", .number r.stats.publishFailures),
    ("uptime_seconds", .number r.uptimeSeconds)])]

end HealthReport

end LobbyPlacement
