import LobbyPlacement.Broker.Connection
import LobbyPlacement.Http.HostAddress
import LobbyPlacement.Service.Basic

/-!
# Start and shutdown

A start brings up the monitor, the interface for requests and the gauges. A shutdown tells the
servers to stop and waits a little for everything that is still at work before it is given up; then
the connection to the broker is closed.
-/

namespace LobbyPlacement.Service

variable {σ : Type}

def hostText (s : Service σ) (port : Nat) : String :=
  s.settings.service.httpHost ++ ":" ++ Text.decimal port

/-- A host that is no address cannot be listened at. -/
def listens (s : Service σ) : Option HostAddress := HostAddress.ofText? s.settings.service.httpHost

def listeningText (a : HostAddress) (port : Nat) : String :=
  "listening on http://" ++ a.text ++ ":" ++ Text.decimal port

def firstNotes (s : Service σ) : Journal :=
  match s.listens with
  | some a => [
      .info ("Health server " ++ listeningText a s.settings.service.metricsPort),
      .info ("Assignment API " ++ listeningText a s.settings.service.httpPort),
      .info "Health metrics task started"]
  | none => [
      .error "Metrics server failed: Invalid health server address",
      .error "API server failed: Invalid API server address",
      .info "Health metrics task started"]

def startNotes (s : Service σ) : Journal := [
  .info "Starting game coordinator service",
  .info ("Starting metrics and health endpoints on port " ++
    Text.decimal s.settings.service.metricsPort),
  .info ("✅ Assignment API started on " ++ s.hostText s.settings.service.httpPort),
  .info "✅ Game coordinator service started successfully"]

def startTasks (s : Service σ) : List BackgroundTask :=
  [.monitor s.listens.isSome, .api s.listens.isSome, .gauges s.now]

/-- Starts everything; the gauges are brought up to date at once. -/
def start [Store σ] (s : Service σ) : Service σ :=
  let started : Service σ := { s with
    isRunning := true
    tasks := s.tasks ++ s.startTasks
    journal := s.journal ++ s.startNotes ++ s.firstNotes }
  started.catchUp id

/-! ### Shutdown -/

/-- How long a shutdown waits for one task. -/
def grace : Nat := 500

def apiEnd : Journal := [.info "API server shutdown signal received", .info "API server stopped",
  .info "API server task completed"]

def monitorEnd : Journal := [.info "Health server shutdown signal received",
  .info "Health server stopped", .info "Metrics server task completed"]

/-- Tells all interfaces for requests to stop; someone has to listen for it. -/
def stopApi (s : Service σ) : Service σ :=
  { s with
    tasks := s.tasks.map fun t => match t with
      | .api _ => .api false
      | t => t
    journal := s.journal ++
      (if s.tasks.any (· = .api true) then apiEnd
       else [.warn "Failed to send shutdown signal to API server: channel closed"]) }

/-- The last monitor no longer listens. -/
def withoutLastMonitor : List BackgroundTask → List BackgroundTask
  | [] => []
  | .monitor isListening :: rest =>
    if rest.any fun t => match t with
      | .monitor _ => true
      | _ => false
    then .monitor isListening :: withoutLastMonitor rest
    else .monitor false :: rest
  | t :: rest => t :: withoutLastMonitor rest

def lastMonitor? (tasks : List BackgroundTask) : Option Bool :=
  (tasks.filterMap fun t => match t with
    | .monitor isListening => some isListening
    | _ => none).getLast?

/-- Tells the monitor to stop. One that a later start has replaced is not told. -/
def stopMonitor (s : Service σ) : Service σ :=
  match lastMonitor? s.tasks with
  | none => s
  | some isListening =>
    { s with
      tasks := withoutLastMonitor s.tasks
      journal := s.journal ++ [.info "Stopping health server..."] ++
        (if isListening then monitorEnd
         else [.warn "Failed to send shutdown signal to health server: channel closed"]) ++
        [.info "Health server stop signal sent", .info "✅ Metrics server stopped"] }

/-- Waits as long as the grace allows and gives a task up. -/
def giveUp (s : Service σ) : Service σ :=
  { s with desk := { s.desk with now := s.now + grace } }.note
    (.debug "Background task did not finish in 500ms, aborting")

/-- Waits for one task. Gauges that are due within the grace are updated once more and end. -/
def await [Store σ] (s : Service σ) : BackgroundTask → Service σ
  | .monitor isListening | .api isListening => if isListening then s.giveUp else s
  | .gauges due =>
    if due < s.now + grace then
      ({ s with desk := { s.desk with now := max due s.now } }.updateGauges due).note
        (.info "Health metrics task stopped")
    else s.giveUp

def awaitTasks [Store σ] (s : Service σ) : Service σ :=
  if s.tasks.isEmpty then s.note (.info "No background tasks to stop")
  else
    let count := Text.decimal s.tasks.length
    let s := s.note (.info ("Stopping " ++ count ++ " background tasks..."))
    { s.tasks.foldl await s with tasks := [] }.note
      (.info ("✅ All " ++ count ++ " background tasks stopped"))

def disconnect (s : Service σ) : Service σ :=
  if !s.isConnected then s
  else match s.desk.publisher with
    | .inl _ => { s with isConnected := false }
    | .inr c =>
      let (broker, attempt) := c.broker.close s.now
      let closing (after : Nat) : Service σ :=
        { s with
          isConnected := false
          desk := { s.desk with
            publisher := .inr { c with broker := broker }
            now := s.now + after } }
      match attempt with
      | .settled after (.ok ()) => (closing after).note (.info "✅ AMQP connection closed")
      | .settled after (.error fault) =>
        (closing after).note (.warn ("Failed to close AMQP connection: " ++ fault.message))
      | .crashed after => closing after
      | .pending => closing 0

def statsText (s : Stats) : String :=
  "CoordinatorStats \x7b requests: " ++ Text.decimal s.requests ++
    ", hits: " ++ Text.decimal s.hits ++
    ", assignments_created: " ++ Text.decimal s.created ++
    ", lost_races: " ++ Text.decimal s.lostRaces ++
    ", client_errors: " ++ Text.decimal s.clientErrors ++
    ", failures: " ++ Text.decimal s.failures ++
    ", publish_failures: " ++ Text.decimal s.publishFailures ++
    ", serialization_failures: " ++ Text.decimal s.serializationFailures ++ " \x7d"

def shutdown [Store σ] (s : Service σ) : Service σ :=
  let s := { s.note (.info "Starting graceful shutdown of game coordinator") with
    isRunning := false }
  let s := s.stopApi.stopMonitor.awaitTasks.disconnect
  (s.note (.info ("Final service statistics: " ++ statsText s.desk.stats))).note
    (.info "✅ Game coordinator shutdown completed")

end LobbyPlacement.Service
