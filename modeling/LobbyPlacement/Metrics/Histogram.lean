import LobbyPlacement.Number.Binary64

/-!
# Histograms

Durations in seconds, counted by the first bound that they do not exceed. Sums are rounded at every
step, in the order of the observations.
-/

namespace LobbyPlacement

open Number

structure Histogram where
  /-- The bounds, rising, with the number of observations whose first bound each is. -/
  buckets : List (Binary64 × Nat)
  sum : Binary64
  observations : Nat

namespace Histogram

def empty (bounds : List Binary64) : Histogram := ⟨bounds.map (·, 0), .zero, 0⟩

def place (v : Binary64) : List (Binary64 × Nat) → List (Binary64 × Nat)
  | [] => []
  | (bound, n) :: rest =>
    if v.le bound then (bound, n + 1) :: rest else (bound, n) :: place v rest

def observe (v : Binary64) (h : Histogram) : Histogram :=
  ⟨place v h.buckets, (h.sum.add v).getD h.sum, h.observations + 1⟩

def cumulative (h : Histogram) : List (Binary64 × Nat) :=
  h.buckets.mapIdx fun i bucket =>
    (bucket.1, (h.buckets.take (i + 1)).foldl (fun n bucket => n + bucket.2) 0)

/-- A number of thousandths or of other decimal parts as a double. -/
def parts (n : Nat) (places : Nat) : Binary64 := (Binary64.ofScientific n (-places)).getD .zero

/-- A duration in microseconds as seconds: the whole seconds and the rest are rounded apart. -/
def secondsOfMicros (micros : Nat) : Binary64 :=
  let whole := (Binary64.ofNat? (micros / 1000000)).getD .zero
  (whole.add (parts (micros % 1000000) 6)).getD whole

def requestBounds : List Binary64 :=
  [parts 5 4, parts 1 3, parts 5 3, parts 1 2, parts 5 2, parts 1 1, parts 5 1, parts 1 0]

/-- The bounds for counts, which may take longer. -/
def countBounds : List Binary64 := requestBounds ++ [parts 5 0]

end Histogram

end LobbyPlacement
