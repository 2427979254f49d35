import LobbyPlacement.Broker.Patience
import Mathlib.Algebra.GroupWithZero.Nat
import Mathlib.Tactic.SplitIfs

/-!
# Waits between attempts

How long each wait is, said without the waits before it: `RetryRule.wait`. Only the first doubling
can be too long to be told, since every later one starts from a wait that is no longer than the
longest. `afterFailure_patience` and `afterWait_counted` say what the counters do at each failure.
-/

namespace LobbyPlacement.RetryRule

/-- The wait that follows a failure, the first failure being number nought. -/
def wait (r : RetryRule) (number : Nat) : Nat :=
  if number = 0 then r.firstWait else min (r.firstWait * 2 ^ number) r.longestWait

/-- Where the counters stand after so many failures and their waits. -/
def patience (r : RetryRule) (failures : Nat) : Patience := ⟨failures, r.wait failures⟩

/-- A wait as long as the longest can be doubled. -/
def LongestDoubles (r : RetryRule) : Prop := 2 * r.longestWait ≤ Text.maxUInt64

variable {r : RetryRule}

theorem wait_succ (r : RetryRule) (number : Nat) :
    r.wait (number + 1) = min (2 * r.wait number) r.longestWait := by
  have twice : r.firstWait * 2 ^ (number + 1) = 2 * (r.firstWait * 2 ^ number) := by
    rw [Nat.pow_succ, ← Nat.mul_assoc, Nat.mul_comm]
  by_cases first : number = 0
  · subst first
    simp only [wait, Nat.zero_add, Nat.one_ne_zero, if_true, if_false, Nat.pow_one, Nat.mul_comm]
  · simp only [wait, twice, first, if_false, Nat.add_one_ne_zero]
    omega

theorem wait_le_longest (r : RetryRule) {number : Nat} (later : 0 < number) :
    r.wait number ≤ r.longestWait := by
  rw [wait, if_neg (Nat.ne_of_gt later)]
  exact Nat.min_le_right _ _

theorem wait_mono (r : RetryRule) {earlier later : Nat} (second : 0 < earlier)
    (order : earlier ≤ later) : r.wait earlier ≤ r.wait later := by
  rw [wait, wait, if_neg (Nat.ne_of_gt second),
    if_neg (Nat.ne_of_gt (Nat.lt_of_lt_of_le second order))]
  have grown : r.firstWait * 2 ^ earlier ≤ r.firstWait * 2 ^ later :=
    Nat.mul_le_mul_left _ (Nat.pow_le_pow_right Nat.two_pos order)
  omega

theorem afterFailure_patience (r : RetryRule) (failures : Nat) :
    (r.patience failures).afterFailure r =
      if Text.maxUInt32 ≤ failures then .overflow
      else if r.maxRetries ≤ failures then .giveUp
      else .retry ⟨failures + 1, r.wait failures⟩ := by
  simp only [patience, Patience.afterFailure, Nat.lt_succ_iff]

section

variable {failures : Nat} {counted : Patience}

theorem uncounted_of_overflow (verdict : (r.patience failures).afterFailure r = .overflow) :
    Text.maxUInt32 ≤ failures := by
  rw [afterFailure_patience] at verdict
  split_ifs at verdict
  assumption

theorem enough_of_giveUp (verdict : (r.patience failures).afterFailure r = .giveUp) :
    failures < Text.maxUInt32 ∧ r.maxRetries ≤ failures := by
  rw [afterFailure_patience] at verdict
  split_ifs at verdict with full enough
  exact ⟨Nat.lt_of_not_le full, enough⟩

theorem fewer_of_retry (verdict : (r.patience failures).afterFailure r = .retry counted) :
    failures < Text.maxUInt32 ∧ failures < r.maxRetries ∧
      counted = ⟨failures + 1, r.wait failures⟩ := by
  rw [afterFailure_patience] at verdict
  split_ifs at verdict with full enough
  injection verdict with same
  exact ⟨Nat.lt_of_not_le full, Nat.lt_of_not_le enough, same.symm⟩

end

theorem twice_wait_le (longest : r.LongestDoubles) (number : Nat) :
    2 * r.wait number ≤ Text.maxUInt64 ↔ ¬(number = 0 ∧ 2 ^ 63 ≤ r.firstWait) := by
  by_cases first : number = 0
  · subst first
    have word : Text.maxUInt64 = 2 ^ 64 - 1 := rfl
    simp only [wait, if_true, true_and, word]
    omega
  · have capped := r.wait_le_longest (Nat.pos_of_ne_zero first)
    simp only [LongestDoubles] at longest
    simp only [first, false_and, not_false_eq_true, iff_true]
    omega

/-- A wait can be doubled unless it is the first and fills its word to more than half. -/
theorem afterWait_counted (longest : r.LongestDoubles) (number : Nat) :
    (⟨number + 1, r.wait number⟩ : Patience).afterWait r =
      if number = 0 ∧ 2 ^ 63 ≤ r.firstWait then none else some (r.patience (number + 1)) := by
  have fits := twice_wait_le longest number
  by_cases tooLong : number = 0 ∧ 2 ^ 63 ≤ r.firstWait
  · rw [if_pos tooLong, Patience.afterWait, if_neg fun small => fits.1 small tooLong]
  · rw [if_neg tooLong, Patience.afterWait, if_pos (fits.2 tooLong), patience, wait_succ]

theorem undoubled_of_none (longest : r.LongestDoubles) {number : Nat}
    (tooLong : (⟨number + 1, r.wait number⟩ : Patience).afterWait r = none) :
    number = 0 ∧ 2 ^ 63 ≤ r.firstWait := by
  rw [afterWait_counted longest] at tooLong
  split_ifs at tooLong
  assumption

theorem doubled_of_some (longest : r.LongestDoubles) {number : Nat} {next : Patience}
    (fits : (⟨number + 1, r.wait number⟩ : Patience).afterWait r = some next) :
    ¬(number = 0 ∧ 2 ^ 63 ≤ r.firstWait) ∧ next = r.patience (number + 1) := by
  rw [afterWait_counted longest] at fits
  split_ifs at fits with tooLong
  injection fits with same
  exact ⟨tooLong, same.symm⟩

end LobbyPlacement.RetryRule
