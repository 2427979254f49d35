import LobbyPlacement.Service.Basic

/-!
# Checkups

A service asked how it is. A full check also sets the gauges of all components; being alive only
needs it to run, and being ready also a store that answers.
-/

namespace LobbyPlacement.Service

variable {σ : Type}

/-- Sets a component's gauge: a component that is only degraded still counts. -/
def showComponent (m : Metrics) (c : ComponentCheck) : Metrics :=
  m.setComponent c.name (c.status ≠ .unhealthy)

def check [Store σ] (s : Service σ) : Service σ × HealthReport :=
  let (desk, reply) := s.desk.pingStore
  let checks := Health.assess s.isRunning reply.toBool desk.publisherIsHealthy
  let status := Health.overall s.isRunning reply.toBool desk.publisherIsHealthy
  let s := { s with desk := desk }.setMetrics fun m =>
    (checks.foldl showComponent m).setHealth status.level
  (s, ⟨s.settings.service.name, status, checks, s.desk.stats, s.uptimeSeconds⟩)

def liveness (s : Service σ) : HealthStatus := .ifAnswers s.isRunning

def readiness [Store σ] (s : Service σ) : Service σ × HealthStatus :=
  if s.isRunning then
    let (desk, reply) := s.desk.pingStore
    ({ s with desk := desk }, .ifAnswers reply.toBool)
  else (s, .unhealthy)

end LobbyPlacement.Service
