import LobbyPlacement.Http.Api
import LobbyPlacement.Metrics.Exposition
import LobbyPlacement.Service.Checkup

/-!
# The monitor

The pages on which a service shows how it is, for monitors and for people. Without a service behind
it the monitor only shows itself and untouched metrics. `stamp` is the time of the day.
-/

namespace LobbyPlacement.Http

inductive Page
  | root
  | health
  | ready
  | alive
  | metrics
  | stats
deriving DecidableEq, Repr

namespace Page

def path : Page → String
  | root => "/"
  | health => "/health"
  | ready => "/ready"
  | alive => "/alive"
  | metrics => "/metrics"
  | stats => "/stats"

def all : List Page := [root, health, ready, alive, metrics, stats]

def ofPath? (path : String) : Option Page := all.find? fun page => page.path = path

end Page

/-! ### Records on the pages -/

def rootRecord : Json := .record [
  ("endpoints", .list ((Page.all.drop 1).map fun page => .text page.path)),
  ("service", .text Product.name), ("version", .text Product.version)]

def statusFields (status : String) : List (String × Json) :=
  [("service", .text Product.name), ("status", .text status), ("version", .text Product.version)]

def notInitialized : String := "Service not initialized"

def missingServiceRecord (stamp : String) : Json := .record [
  ("error", .text notInitialized),
  ("service", .record [("name", .text Product.name), ("status", .text "error")]),
  ("timestamp", .text stamp)]

def loadJson (l : Load) : Json :=
  .record [("server_address", .text l.server), ("assignments", .number l.lobbies)]

/-- Loads that could not be counted are left open. -/
def loadsJson : Except Fault (List Load) → Json
  | .ok loads => .list (loads.map loadJson)
  | .error _ => .null

def statsRecord {σ : Type} (stamp : String) (s : Service σ) (r : HealthReport) (loads : Json) :
    Json := .record [
  ("components", .list (r.checks.map ComponentCheck.json)),
  ("events", .record [("backend", .text s.settings.events.backend.text),
    ("channel", .text s.settings.events.channel),
    ("publish_failures", .number r.stats.publishFailures)]),
  ("pool", .list (s.desk.rules.pool.servers.map .text)),
  ("requests", .record [("assignments_created", .number r.stats.created),
    ("failures", .number r.stats.failures), ("hits", .number r.stats.hits),
    ("lost_races", .number r.stats.lostRaces), ("total", .number r.stats.requests)]),
  ("server_loads", loads),
  ("service", .record [("name", .text r.service), ("status", .text r.status.name),
    ("uptime_seconds", .number r.uptimeSeconds), ("version", .text Product.version)]),
  ("timestamp", .text stamp)]

/-! ### Reading the pages -/

def metricsAnswer (m : Metrics) : Answer :=
  ⟨200, some Exposition.contentType, .text (Exposition.text m), none⟩

def readinessAnswer : HealthStatus → Answer
  | .healthy => .plain 200 "Ready"
  | .degraded => .plain 200 "Degraded but ready"
  | .unhealthy => .plain 503 "Not ready"

def livenessAnswer : HealthStatus → Answer
  | .healthy => .plain 200 "Alive"
  | _ => .plain 503 "Not alive"

/-- A degraded service is still up. -/
def healthAnswer (status : HealthStatus) : Answer :=
  .json (if status = .unhealthy then 503 else 200) (.record (statusFields status.name))

variable {σ : Type} [Store σ]

def readPage (stamp : String) (s : Service σ) : Page → Service σ × Answer
  | .root => (s, .json 200 rootRecord)
  | .health => let (s, r) := s.check; (s, healthAnswer r.status)
  | .ready => let (s, status) := s.readiness; (s, readinessAnswer status)
  | .alive => (s, livenessAnswer s.liveness)
  | .metrics =>
    let s := s.setMetrics fun m => m.setUptime (s.uptimeAt s.now)
    (s, metricsAnswer s.desk.metrics)
  | .stats =>
    let (s, r) := s.check
    let (s, loads) := s.serve Desk.loads
    (s, .json 200 (statsRecord stamp s r (loadsJson loads)))

def readEmptyPage (stamp : String) : Page → Answer
  | .root => .json 200 rootRecord
  | .health =>
    .json 503 (.record (("error", .text notInitialized) :: statusFields "unhealthy"))
  | .ready | .alive => .plain 503 notInitialized
  | .metrics => metricsAnswer .empty
  | .stats => .json 503 (missingServiceRecord stamp)

def monitor (stamp : String) (s : Service σ) (method : Method) (t : Target) :
    Service σ × Option Answer :=
  match Page.ofPath? t.path with
  | none => (s, some .notFound)
  | some page => method.answer s fun s =>
      let (s, a) := readPage stamp s page
      (s, some a)

def emptyMonitor (stamp : String) (method : Method) (t : Target) : Option Answer :=
  match Page.ofPath? t.path with
  | none => some .notFound
  | some page => (method.answer () fun _ => ((), some (readEmptyPage stamp page))).2

end LobbyPlacement.Http
