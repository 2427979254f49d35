import LobbyPlacement.Metrics.Gauges
import LobbyPlacement.Number.Shortest
import LobbyPlacement.Text.Numeral

/-!
# The exposition text

Metrics as the lines that monitors read: families by name, the samples of a family by their
labels, each family under its help and its type. A labelled family without samples is left out.
All numbers are written as doubles, without an exponent.
-/

namespace LobbyPlacement

structure Sample where
  suffix : String
  labels : List (String × String)
  value : String

inductive FamilyKind
  | counter
  | gauge
  | histogram

structure Family where
  name : String
  help : String
  kind : FamilyKind
  samples : List Sample

namespace Exposition

def contentType : String := "text/plain; version=0.0.4"

def integerText (i : Int) : String :=
  (if i < 0 then "-" else "") ++
    match Number.Binary64.ofNat? i.natAbs with
    | some x => Number.Layout.plain.text x
    | none => Text.decimal i.natAbs

def escapeLabel (c : Char) : List Char :=
  if c = '\\' then ['\\', '\\']
  else if c = '"' then ['\\', '"']
  else if c = '\n' then ['\\', 'n']
  else [c]

def labelText (label : String × String) : String :=
  label.1 ++ "=\"" ++ String.ofList (label.2.toList.flatMap escapeLabel) ++ "\""

def sampleLine (family : String) (s : Sample) : String :=
  family ++ s.suffix ++
    (if s.labels.isEmpty then ""
     else "\x7b" ++ ",".intercalate (s.labels.map labelText) ++ "\x7d") ++ " " ++ s.value

def kindText : FamilyKind → String
  | .counter => "counter"
  | .gauge => "gauge"
  | .histogram => "histogram"

def familyLines (f : Family) : List String :=
  ("# HELP " ++ f.name ++ " " ++ f.help) :: ("# TYPE " ++ f.name ++ " " ++ kindText f.kind) ::
    f.samples.map (sampleLine f.name)

def histogramSamples (labels : List (String × String)) (h : Histogram) : List Sample :=
  h.cumulative.map (fun (bound, n) =>
      ⟨"_bucket", labels ++ [("le", Number.Layout.plain.text bound)], integerText n⟩) ++
    [⟨"_bucket", labels ++ [("le", "+Inf")], integerText h.observations⟩,
      ⟨"_sum", labels, Number.Layout.plain.text h.sum⟩,
      ⟨"_count", labels, integerText h.observations⟩]

def plain (v : Int) : List Sample := [⟨"", [], integerText v⟩]

/-- The samples of a series whose keys are written as labels, in the order of the label values. -/
def labelled {κ : Type} (labels : κ → List (String × String)) (s : Series κ) : List Sample :=
  (s.map fun entry => (⟨"", labels entry.1, integerText entry.2⟩ : Sample)).mergeSort
    fun a b => decide (¬ (b.labels.map (·.2) < a.labels.map (·.2)))

def publishedLabels (key : String × Bool) : List (String × String) :=
  [("channel", key.1), ("status", Metrics.statusLabel key.2)]

def durationSamples (m : Metrics) : List Sample :=
  (m.requestDurations.mergeSort fun a b => decide (¬ (b.1.label < a.1.label))).flatMap
    fun (ending, h) => histogramSamples [("outcome", ending.label)] h

def families (m : Metrics) : List Family := [
    ⟨"game_coordinator_assignment_duration_seconds", "Assignment request processing time",
      .histogram, durationSamples m⟩,
    ⟨"game_coordinator_assignment_requests_total", "Assignment requests by outcome", .counter,
      labelled (fun e => [("outcome", e.label)]) m.requests⟩,
    ⟨"game_coordinator_assignments_created_total", "Assignments created per backend server",
      .counter, labelled (fun server => [("server", server)]) m.created⟩,
    ⟨"game_coordinator_component_health", "Component health status", .gauge,
      labelled (fun name => [("component", name)]) m.componentHealth⟩,
    ⟨"game_coordinator_estimation_duration_seconds", "Load estimation time (full keyspace scan)",
      .histogram, histogramSamples [] m.countDurations⟩,
    ⟨"game_coordinator_event_serialization_failures_total",
      "Assignment events that could not be serialized", .counter, plain m.serializationFailures⟩,
    ⟨"game_coordinator_events_published_total",
      "Assignment events published by channel and status", .counter,
      labelled publishedLabels m.published⟩,
    ⟨"game_coordinator_health_status", "Health status (0=unhealthy, 1=degraded, 2=healthy)",
      .gauge, plain m.healthStatus⟩,
    ⟨"game_coordinator_server_load",
      "Lobbies assigned per backend server at the last estimation", .gauge,
      labelled (fun server => [("server", server)]) m.serverLoad⟩,
    ⟨"game_coordinator_uptime_seconds", "Service uptime in seconds", .gauge,
      plain m.uptimeSeconds⟩]

def lines (m : Metrics) : List String :=
  ((families m).filter fun f => !f.samples.isEmpty).flatMap familyLines

def text (m : Metrics) : String := String.join ((lines m).map (· ++ "\n"))

end Exposition

end LobbyPlacement
