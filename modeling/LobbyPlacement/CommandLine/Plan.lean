import LobbyPlacement.CommandLine.Options
import LobbyPlacement.Http.Endpoint
import LobbyPlacement.Journal.Threshold

/-!
# Runs that do not serve

What the program prints, and the two runs that are over at once: asking a service at work for its
health, and trying the settings out.
-/

namespace LobbyPlacement

/-- What a run is for. -/
inductive Purpose
  | healthCheck
  | dryRun
  | serve
deriving DecidableEq, Repr

/-- A health check goes before a dry run. -/
def Options.purpose (o : Options) : Purpose :=
  if o.healthCheck then .healthCheck else if o.dryRun then .dryRun else .serve

inductive OutputLine
  | journal (line : JournalLine)
  | plain (text : String)
deriving DecidableEq, Repr

namespace OutputLine

/-- Lines by themselves are shown whatever the threshold. -/
def isShown (threshold : Nat) : OutputLine → Bool
  | journal line => line.isShown threshold
  | plain _ => true

def ofJournal (j : Journal) : List OutputLine := j.map journal

end OutputLine

structure Finish where
  code : Nat
  lines : List OutputLine
deriving DecidableEq, Repr

namespace Finish

def shown (threshold : Nat) (f : Finish) : Finish :=
  { f with lines := f.lines.filter (·.isShown threshold) }

end Finish

namespace Settings

def banner (s : Settings) : Journal := [
  .info "🚀 Game Coordinator",
  .info ("   Service: " ++ s.service.name),
  .info ("   Log level: " ++ s.service.logLevel),
  .info ("   Assignment API: " ++ s.service.httpHost ++ ":" ++ Text.decimal s.service.httpPort),
  .info ("   Metrics port: " ++ Text.decimal s.service.metricsPort),
  .info ("   Servers: " ++ ", ".intercalate s.servers),
  .info ("   Events: " ++ s.events.backend.text ++ " on '" ++ s.events.channel ++ "'"),
  .info ("   Write mode: " ++ s.mode.text),
  .info (String.ofList (List.replicate 49 '━'))]

def dryRun (s : Settings) : Finish :=
  ⟨0, OutputLine.ofJournal ([.info "Configuration validation successful"] ++ s.banner ++
    [.info "Dry run completed - exiting without starting service"])⟩

/-- Asks the service with these settings for its health; it answers with a code, or cannot be
reached for a reason. -/
def healthCheck (s : Settings) (ask : String → Except String Nat) : Finish :=
  let address := endpointAddress s.service.httpHost s.service.metricsPort
  let answer := ask address
  let status := EndpointStatus.ofCode answer.toOption
  let setback : Journal := match answer with
    | .ok _ => []
    | .error reason =>
      [.debug ("Health request connection to http://" ++ address ++ "/health failed: " ++ reason)]
  ⟨if status.isHealthy then 0 else 1,
    OutputLine.ofJournal ([.info ("Performing health check against " ++ address ++ "...")] ++
      setback) ++ [.plain ("Health Check: " ++ status.text ++ " (" ++ address ++ ")")]⟩

end Settings

end LobbyPlacement
