import LobbyPlacement.Publisher

/-!
# The recorder

A publisher that keeps what it was given. It takes a settable time for every payload, can be told
to fail, and records nothing that was given up before.
-/

namespace LobbyPlacement

structure Recorder where
  published : List (String × Text.Utf8.Bytes)
  failing : Bool
  delay : Nat
  healthy : Bool

namespace Recorder

def empty : Recorder := ⟨[], false, 0, true⟩

def refusal : Fault := .publish "mock publisher set to fail"

def publish (r : Recorder) (limit : Nat) (channel : String) (payload : Text.Utf8.Bytes) :
    Recorder × Attempt :=
  if limit < r.delay then (r, .pending)
  else if r.failing then (r, .settled r.delay (.error refusal))
  else ({ r with published := r.published ++ [(channel, payload)] }, .settled r.delay (.ok ()))

def count (r : Recorder) (channel : String) : Nat :=
  (r.published.filter fun entry => entry.1 = channel).length

def clear (r : Recorder) : Recorder := { r with published := [] }

end Recorder

instance : Publisher Recorder where
  publish r _ limit channel payload := r.publish limit channel payload
  isHealthy r := r.healthy

end LobbyPlacement
