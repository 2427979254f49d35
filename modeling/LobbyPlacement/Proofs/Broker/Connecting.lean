import LobbyPlacement.Proofs.Broker.Persistence

/-!
# Connecting

Connecting to a broker is a loop of trials to connect: `connect_persists`. A broker may refuse any
number of them: `tryConnect_refuses`.
-/

namespace LobbyPlacement

theorem BrokerAddress.longestDoubles (a : BrokerAddress) : a.retryRule.LongestDoubles := by
  simp [RetryRule.LongestDoubles, retryRule, longestWait, Text.maxUInt64]

namespace Broker

def tryConnect (a : BrokerAddress) : Trial Broker := fun b now =>
  match b.meet now (.connect a) with
  | (b, .after delay none) => ({ b with isOpen := true }, .settled delay (.ok ()))
  | (b, .after delay (some refusal)) => (b, .settled delay (.error (refusedConnection refusal)))
  | (b, .silence) => (b, .pending)

theorem tryConnect_refused {a : BrokerAddress} {b left : Broker} {now delay : Nat}
    {refusal : String} (refused : b.meet now (.connect a) = (left, .after delay (some refusal))) :
    tryConnect a b now = (left, .settled delay (.error (refusedConnection refusal))) := by
  simp only [tryConnect, refused]

theorem connectFrom_persists (a : BrokerAddress) (start : Nat) (p : Patience) (elapsed : Nat)
    (b : Broker) {failures : Nat} (counted : p = a.retryRule.patience failures) :
    ∃ left setbacks ending,
      Persists a.retryRule (tryConnect a) exhausted failures b (start + elapsed)
        (left, setbacks, ending) ∧
      b.connectFrom a start p elapsed = (left, setbacks, ending.delayed elapsed) := by
  fun_induction connectFrom a start p elapsed b generalizing failures with
  | case1 _ _ _ b silent =>
    exact ⟨b, [], .pending, .unanswered (by simp only [tryConnect, silent]), rfl⟩
  | case2 _ _ _ b delay granted =>
    exact ⟨_, [], .settled delay (.ok ()), .succeeded (by simp only [tryConnect, granted]), rfl⟩
  | case3 _ _ _ b delay refusal refused verdict =>
    subst counted
    exact ⟨b, [], .crashed delay, .uncounted (tryConnect_refused refused)
      (RetryRule.uncounted_of_overflow verdict), rfl⟩
  | case4 _ _ _ b delay refusal refused =>
    rename_i verdict
    subst counted
    obtain ⟨room, enough⟩ := RetryRule.enough_of_giveUp verdict
    exact ⟨b, [], _, .gaveUp (tryConnect_refused refused) room enough, rfl⟩
  | case5 _ elapsed _ b delay refusal refused fault next verdict rested =>
    rename_i tooLong
    subst counted
    obtain ⟨room, fewer, rfl⟩ := RetryRule.fewer_of_retry verdict
    obtain ⟨rfl, long⟩ := RetryRule.undoubled_of_none a.longestDoubles tooLong
    refine ⟨b, _, _, .undoubled (tryConnect_refused refused) fewer long, ?_⟩
    simp only [rested, Attempt.delayed_crashed, Nat.add_assoc]
    rfl
  | case6 _ elapsed _ b delay refusal refused fault next verdict rested later fits _ _ left
      setbacks _ goes =>
    rename_i ih
    subst counted
    obtain ⟨room, fewer, rfl⟩ := RetryRule.fewer_of_retry verdict
    obtain ⟨doubled, rfl⟩ := RetryRule.doubled_of_some a.longestDoubles fits
    obtain ⟨_, _, ending, rest, same⟩ := ih rfl
    rw [same] at goes
    cases goes
    have later : start + rested = start + elapsed + (delay + a.retryRule.wait failures) := by
      simp only [rested, Nat.add_assoc]
    rw [later] at rest
    refine ⟨left, _, _, .retried (tryConnect_refused refused) room fewer doubled rest, ?_⟩
    rw [Attempt.delayed_delayed, ← Nat.add_assoc]

/-- Connecting is a loop of trials, ended by a fault that wraps the last one. -/
theorem connect_persists (a : BrokerAddress) (now : Nat) (b : Broker) :
    Persists a.retryRule (tryConnect a) exhausted 0 b now (b.connect a now) := by
  obtain ⟨left, setbacks, ending, goes, same⟩ :=
    connectFrom_persists a now (.start a.retryRule) 0 b rfl
  rw [connect, same, Attempt.delayed_zero]
  exact goes

/-- A broker that refuses the next so many connections. -/
def RefusesConnections (number : Nat) (b : Broker) : Prop :=
  b.isReachable = true ∧ ∃ rest, b.responses.connects = Response.refusals number ++ rest

theorem tryConnect_refuses (a : BrokerAddress) {b : Broker} (now : Nat) {number : Nat}
    (refuses : b.RefusesConnections (number + 1)) :
    ∃ left spent fault, tryConnect a b now = (left, .settled spent (.error fault)) ∧
      left.RefusesConnections number := by
  obtain ⟨reachable, rest, plan⟩ := refuses
  rw [Response.refusals_succ, List.cons_append] at plan
  have met := meet_of_reachable reachable now (.connect a)
  have refused : (respond b.responses (.connect a)).2 = .after 0 (some "") := by
    rw [respond, plan, List.headD_cons]
  rw [refused] at met
  refine ⟨_, 0, _, tryConnect_refused met, reachable, rest, ?_⟩
  show b.responses.connects.tail = _
  rw [plan, List.tail_cons]

end Broker

end LobbyPlacement
