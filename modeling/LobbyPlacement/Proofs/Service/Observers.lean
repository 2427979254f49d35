import LobbyPlacement.Proofs.Service.Affairs

/-!
# Observers

Whoever only looks: lookups, counts of the loads, statistics, checks of the store and the publisher,
and all pages of the monitor. They set gauges and leave everything else in a service as it was, as
the task of the gauges does: `attend_of_observer`, `unwatched_catchUp`.
-/

namespace LobbyPlacement

namespace Affair

def observes : Affair → Bool
  | lookup _ | loads | stats | storeHealth | publisherHealth | page _ _ _ => true
  | resolve _ | api _ _ | bus _ | weather _ | link _ | elapse _ | start => false

end Affair

/-- The metrics without the gauges, which are set and not counted. -/
def Metrics.counters (m : Metrics) : Metrics :=
  { m with uptimeSeconds := 0, healthStatus := 0, componentHealth := [], serverLoad := [] }

namespace Metrics

theorem eq_of_counters {m n : Metrics} (same : m.counters = n.counters) :
    ∃ uptime health components loads, n =
      { m with
        uptimeSeconds := uptime
        healthStatus := health
        componentHealth := components
        serverLoad := loads } := by
  obtain ⟨_, _, _, requests, created, _, published, failures, durations, counts⟩ := m
  obtain ⟨uptime, health, components, requests', created', loads, published', failures', durations',
    counts'⟩ := n
  unfold counters at same
  injection same with _ _ _ requests created _ published failures durations counts
  dsimp only at requests created published failures durations counts
  subst requests created published failures durations counts
  exact ⟨uptime, health, components, loads, rfl⟩

@[simp]
theorem counters_setUptime (milliseconds : Nat) (m : Metrics) :
    (m.setUptime milliseconds).counters = m.counters := by
  -- Whatever the seconds are: unfolding them would not come to an end.
  have any : ∀ seconds, ({ m with uptimeSeconds := seconds } : Metrics).counters = m.counters :=
    fun _ => rfl
  exact any (signedWord (milliseconds / 1000))

@[simp]
theorem counters_setHealth (status : Nat) (m : Metrics) :
    (m.setHealth status).counters = m.counters := rfl

@[simp]
theorem counters_setComponent (name : String) (healthy : Bool) (m : Metrics) :
    (m.setComponent name healthy).counters = m.counters := rfl

@[simp]
theorem counters_setLoads (loads : List Load) (m : Metrics) :
    (m.setLoads loads).counters = m.counters := rfl

end Metrics

namespace Desk

variable {σ π : Type}

def unmeasured (d : Desk σ π) : Desk σ π := { d with metrics := d.metrics.counters }

theorem eq_of_unmeasured {d e : Desk σ π} (same : d.unmeasured = e.unmeasured) :
    ∃ metrics, metrics.counters = d.metrics.counters ∧ e = { d with metrics := metrics } := by
  obtain ⟨rules, store, publisher, now, stats, metrics⟩ := d
  obtain ⟨rules', store', publisher', now', stats', metrics'⟩ := e
  unfold unmeasured at same
  injection same with rules store publisher now stats metrics
  dsimp only at rules store publisher now stats metrics
  subst rules store publisher now stats
  exact ⟨metrics', metrics.symm, rfl⟩

theorem loads_unmeasured (d : Desk MemoryStore π) : d.loads.1.unmeasured = d.unmeasured := by
  rcases d.loads_reads with same | ⟨counted, same⟩
  · rw [same]
  · rw [same]
    simp only [unmeasured, Metrics.counters_setLoads]

end Desk

namespace Service

/-- A service without all that only its observers see change. -/
def unwatched {σ : Type} (s : Service σ) : Service σ :=
  { s with desk := s.desk.unmeasured, tasks := [], journal := [] }

theorem eq_of_unwatched {σ : Type} {s t : Service σ} (same : s.unwatched = t.unwatched) :
    ∃ metrics tasks journal, metrics.counters = s.desk.metrics.counters ∧ t =
      { s with
        desk := { s.desk with metrics := metrics }
        tasks := tasks
        journal := journal } := by
  obtain ⟨settings, desk, startedAt, isRunning, isConnected, tasks, journal⟩ := s
  obtain ⟨settings', desk', startedAt', isRunning', isConnected', tasks', journal'⟩ := t
  unfold unwatched at same
  injection same with settings desk startedAt isRunning isConnected
  dsimp only at settings desk startedAt isRunning isConnected
  obtain ⟨metrics, counters, rfl⟩ := Desk.eq_of_unmeasured desk
  subst settings startedAt isRunning isConnected
  exact ⟨metrics, tasks', journal', counters, rfl⟩

theorem unwatched_setMetrics {σ : Type} {s : Service σ} {change : Metrics → Metrics}
    (shows : (change s.desk.metrics).counters = s.desk.metrics.counters) :
    (s.setMetrics change).unwatched = s.unwatched := by
  simp only [unwatched, setMetrics, Desk.unmeasured, shows]

@[simp]
theorem unwatched_note {σ : Type} (s : Service σ) (line : JournalLine) :
    (s.note line).unwatched = s.unwatched := rfl

theorem unwatched_updateGauges (s : Service MemoryStore) (time : Nat) :
    (s.updateGauges time).unwatched = s.unwatched := by
  unfold updateGauges
  rw [Desk.pingStore_reads]
  dsimp only
  rw [unwatched_note, unwatched_setMetrics]
  rw [Metrics.counters_setHealth, Metrics.counters_setComponent, Metrics.counters_setComponent,
    Metrics.counters_setUptime]

/-- Bringing the gauges up to date is an observer's work, too. -/
theorem unwatched_catchUp (s : Service MemoryStore) (seen : Nat → Nat) :
    (s.catchUp seen).unwatched = s.unwatched := by
  unfold catchUp
  split
  · rfl
  · rw [unwatched_updateGauges]
    rfl

theorem unwatched_serve {α : Type}
    (work : Desk MemoryStore Transport → Desk MemoryStore Transport × α) {s : Service MemoryStore}
    (reads : (work s.desk).1.unmeasured = s.desk.unmeasured) :
    (s.serve work).1.unwatched = s.unwatched := by
  simp only [serve, unwatched_catchUp]
  simp only [unwatched, reads]

theorem unwatched_loads (s : Service MemoryStore) :
    (s.serve Desk.loads).1.unwatched = s.unwatched :=
  unwatched_serve Desk.loads s.desk.loads_unmeasured

theorem unwatched_check (s : Service MemoryStore) : s.check.1.unwatched = s.unwatched := by
  unfold check
  rw [Desk.pingStore_reads]
  dsimp only
  rw [unwatched_setMetrics]
  simp only [Health.assess, List.foldl_cons, List.foldl_nil, showComponent,
    Metrics.counters_setHealth, Metrics.counters_setComponent]

theorem unwatched_readPage (stamp : String) (s : Service MemoryStore) (page : Http.Page) :
    (Http.readPage stamp s page).1.unwatched = s.unwatched := by
  cases page with
  | root => rfl
  | health => exact s.unwatched_check
  | ready => exact congrArg unwatched s.readiness_reads
  | alive => rfl
  | metrics => exact unwatched_setMetrics (Metrics.counters_setUptime _ _)
  | stats => exact s.check.1.unwatched_loads.trans s.unwatched_check

theorem unwatched_monitor (stamp : String) (s : Service MemoryStore) (method : Http.Method)
    (target : Http.Target) : (Http.monitor stamp s method target).1.unwatched = s.unwatched := by
  rw [Http.monitor_reads]
  split
  · exact s.unwatched_readPage stamp _
  · rfl

theorem attend_of_observer (s : Service MemoryStore) {affair : Affair}
    (observes : affair.observes = true) : (s.attend affair).1.unwatched = s.unwatched := by
  cases affair with
  | lookup lobby =>
    exact unwatched_serve (fun d => d.lookup lobby)
      (congrArg Desk.unmeasured (s.desk.lookup_reads lobby))
  | loads => exact s.unwatched_loads
  | stats => rfl
  | storeHealth => exact unwatched_serve Desk.pingStore (by rw [Desk.pingStore_reads])
  | publisherHealth => rfl
  | page stamp method target => exact s.unwatched_monitor stamp method target
  | resolve _ | api _ _ | bus _ | weather _ | link _ | elapse _ | start => cases observes

end Service

end LobbyPlacement
