import LobbyPlacement.CommandLine.Plan
import LobbyPlacement.Service.Assembly
import LobbyPlacement.Service.Checkup
import LobbyPlacement.Service.Lifecycle
import LobbyPlacement.Store.Memory

/-!
# Sessions

A service at work from its start until a signal stops it. `Session.launch` brings the service up or
tells why not; a session then gives a summary of its health every minute, and `Session.close` shuts
it down.
-/

namespace LobbyPlacement

inductive StopSignal
  | terminate
  | interrupt
deriving DecidableEq, Repr

def StopSignal.text : StopSignal → String
  | terminate => "SIGTERM"
  | interrupt => "SIGINT (Ctrl+C)"

/-- A service that has been started, and when it gives its next summary. -/
structure Session where
  service : Service MemoryStore
  summaryDue : Nat

/-- What came of a launch; without a session, everything that was told until then. -/
inductive Launch
  | started (session : Session)
  | failed (finish : Finish)
  /-- The broker neither answers nor refuses. -/
  | waiting (journal : Journal)

namespace Session

def summaryPeriod : Nat := 60000

def summary (r : HealthReport) : JournalLine :=
  .info ("Health check: " ++ r.status.display ++ " - " ++ Text.decimal r.stats.requests ++
    " requests, " ++ Text.decimal r.stats.created ++ " assignments created, " ++
    Text.decimal r.stats.publishFailures ++ " publish failures")

def summarize (s : Session) : Session :=
  if s.summaryDue ≤ s.service.now then
    let (service, report) := s.service.check
    ⟨service.note (summary report), s.summaryDue +
      ((s.service.now - s.summaryDue) / summaryPeriod + 1) * summaryPeriod⟩
  else s

/-- Starts a service that was put together; the first summary is given at once. -/
def begin (service : Service MemoryStore) : Session :=
  let service := ((service.note (.info "Starting service...")).start.note
    (.info "✅ Game Coordinator is running")).note
    (.info "Press Ctrl+C to shutdown gracefully...")
  summarize ⟨service, service.now⟩

def crashCode : Nat := 101

def launch (s : Settings) (b : Broker) : Launch :=
  let assembly := Service.assemble s MemoryStore.empty b
  let told := s.banner ++ [.info "Initializing service components..."] ++ assembly.journal
  match assembly.result with
  | .ready service => .started (begin { service with journal := told })
  | .refused fault => .failed ⟨1, OutputLine.ofJournal
      (told ++ [.error ("Failed to initialize application: " ++ fault.message)])⟩
  | .crashed => .failed ⟨crashCode, OutputLine.ofJournal told⟩
  | .stuck => .waiting told

def advance (milliseconds : Nat) (s : Session) : Session :=
  summarize { s with service := s.service.advance milliseconds }

/-- What the program says of a shutdown that took some time. -/
def farewell (limit elapsed : Nat) : Journal := [
  if elapsed ≤ limit then .info "✅ Graceful shutdown completed successfully"
  else .warn "⚠️  Shutdown timeout exceeded, forcing exit",
  .info "🛑 Game Coordinator stopped"]

def close (signal : StopSignal) (s : Session) : Finish :=
  let told := (s.service.note (.info ("Received " ++ signal.text ++ " signal"))).note
    (.info "🛑 Shutdown signal received, beginning graceful shutdown...")
  let stopped := told.shutdown
  ⟨0, OutputLine.ofJournal (stopped.journal ++
    farewell s.service.settings.shutdownTimeout (stopped.now - told.now))⟩

end Session

end LobbyPlacement
