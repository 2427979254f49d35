import LobbyPlacement.Metrics.Histogram
import LobbyPlacement.Metrics.Series
import LobbyPlacement.Placement.Request

/-!
# Metrics

All numbers that a service shows to its monitors, and what is recorded on which occasion.
-/

namespace LobbyPlacement

instance : Labels Ending := ⟨fun ending => [ending.label]⟩

/-- How an announcement on a channel came out, as a label value. -/
def Metrics.statusLabel (confirmed : Bool) : String := if confirmed then "success" else "failed"

instance : Labels (String × Bool) := ⟨fun key => [key.1, Metrics.statusLabel key.2]⟩

structure Metrics where
  uptimeSeconds : Int
  healthStatus : Int
  componentHealth : Series String
  requests : Series Ending
  created : Series String
  serverLoad : Series String
  published : Series (String × Bool)
  serializationFailures : Nat
  requestDurations : List (Ending × Histogram)
  countDurations : Histogram

namespace Metrics

def empty : Metrics :=
  ⟨0, 0, [], [], [], [], [], 0, [], .empty Histogram.countBounds⟩

/-- A number of lobbies as a signed word of 64 bits. -/
def signedWord (n : Nat) : Int := Int.bmod n (Nat.pow 2 64)

/-- A duration in the histogram of an ending. The hashes of the endings are all different
(`Ending.hash_inj`). -/
def observeEnding (ending : Ending) (seconds : Number.Binary64) :
    List (Ending × Histogram) → List (Ending × Histogram)
  | [] => [(ending, (Histogram.empty Histogram.requestBounds).observe seconds)]
  | (e, h) :: rest =>
    if e = ending then (e, h.observe seconds) :: rest
    else (e, h) :: observeEnding ending seconds rest

def recordRequest (ending : Ending) (micros : Nat) (m : Metrics) : Metrics :=
  { m with
    requests := m.requests.bump ending
    requestDurations :=
      observeEnding ending (Histogram.secondsOfMicros micros) m.requestDurations }

def recordCreated (server : String) (m : Metrics) : Metrics :=
  { m with created := m.created.bump server }

def setLoads (loads : List Load) (m : Metrics) : Metrics :=
  { m with
    serverLoad := loads.foldl (fun s load => s.set load.server (signedWord load.lobbies))
      m.serverLoad }

def recordCount (loads : List Load) (micros : Nat) (m : Metrics) : Metrics :=
  { m.setLoads loads with
    countDurations := m.countDurations.observe (Histogram.secondsOfMicros micros) }

def recordAnnounced (channel : String) (confirmed : Bool) (m : Metrics) : Metrics :=
  { m with published := m.published.bump (channel, confirmed) }

def recordSerializationFailure (m : Metrics) : Metrics :=
  { m with serializationFailures := m.serializationFailures + 1 }

def setHealth (status : Nat) (m : Metrics) : Metrics := { m with healthStatus := status }

def setComponent (name : String) (healthy : Bool) (m : Metrics) : Metrics :=
  { m with componentHealth := m.componentHealth.set name (if healthy then 1 else 0) }

def setUptime (milliseconds : Nat) (m : Metrics) : Metrics :=
  { m with uptimeSeconds := signedWord (milliseconds / 1000) }

end Metrics

end LobbyPlacement
