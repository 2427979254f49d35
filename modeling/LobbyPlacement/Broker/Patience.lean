import LobbyPlacement.Text.Numeral

/-!
# Patience with a broker

How often a failed attempt is repeated and how long is waited before. The first wait is given; each
later one is twice the wait before, up to a longest wait. The number of failures is a word of 32
bits and a doubled wait one of 64, and what does not fit ends the attempts with a crash. This is so
where overflows are checked; where they are not, the number of failures goes back to nought, and of
a doubled wait only the last 64 bits are left.
-/

namespace LobbyPlacement

structure RetryRule where
  maxRetries : Nat
  firstWait : Nat
  longestWait : Nat
deriving DecidableEq, Repr

/-- The failures so far and the wait after the next one. -/
structure Patience where
  failures : Nat
  wait : Nat
deriving DecidableEq, Repr

/-- What follows a failure: no more attempts, no room to count it, or another attempt after the
wait. -/
inductive Verdict
  | giveUp
  | overflow
  | retry (counted : Patience)
deriving DecidableEq, Repr

namespace Patience

def start (rule : RetryRule) : Patience := ⟨0, rule.firstWait⟩

def afterFailure (rule : RetryRule) (p : Patience) : Verdict :=
  if Text.maxUInt32 ≤ p.failures then .overflow
  else if rule.maxRetries < p.failures + 1 then .giveUp
  else .retry { p with failures := p.failures + 1 }

/-- Sets the next wait; none if the doubled wait is too long to be told. -/
def afterWait (rule : RetryRule) (p : Patience) : Option Patience :=
  if 2 * p.wait ≤ Text.maxUInt64 then some { p with wait := min (2 * p.wait) rule.longestWait }
  else none

/-- What is left of the failures that can be counted. -/
def room (p : Patience) : Nat := Text.maxUInt32 - p.failures

theorem room_afterFailure {rule : RetryRule} {p counted : Patience}
    (retried : p.afterFailure rule = .retry counted) : counted.room < p.room := by
  simp only [afterFailure] at retried
  split at retried
  · contradiction
  · split at retried
    · contradiction
    · injection retried with same
      subst same
      simp only [room]
      omega

theorem failures_afterWait {rule : RetryRule} {p next : Patience}
    (fits : p.afterWait rule = some next) : next.failures = p.failures := by
  simp only [afterWait] at fits
  split at fits
  · injection fits with same
    rw [← same]
  · contradiction

end Patience

end LobbyPlacement
