import LobbyPlacement.Broker.Dispatch

/-!
# Publishing through a broker

A dispatch followed from its start until it is over or, if there is a deadline, as far as its steps
come no later than the deadline. What is then still waiting is given up where it stands.
-/

namespace LobbyPlacement

namespace Dispatch

/-- Follows a dispatch that a step has left, on a clock that shows `now`. -/
def follow (deadline : Option Nat) (start : Nat) (c : BrokerChannel) (now : Nat) :
    Turn → BrokerChannel × Attempt
  | .over result => (c, .settled (now - start) result)
  | .crashed => (c, .crashed (now - start))
  | .waiting none _ _ => (c, .pending)
  | .waiting (some wake) stage d =>
    if deadline.all fun t => wake ≤ t then
      let next := d.step c wake stage
      follow deadline start next.1 wake next.2
    else (c, .pending)
termination_by turn => turn.rank
decreasing_by exact d.rank_step_below c wake stage

end Dispatch

namespace BrokerChannel

/-- Publishes a payload, starting now, given up at the deadline if there is one. -/
def publish (c : BrokerChannel) (now : Nat) (deadline : Option Nat) (exchange : String)
    (payload : Text.Utf8.Bytes) : BrokerChannel × Attempt :=
  let (c, turn) := Dispatch.begin exchange payload c now
  Dispatch.follow deadline now c now turn

end BrokerChannel

instance : Publisher BrokerChannel where
  publish c now limit channel payload := c.publish now (some (now + limit)) channel payload
  isHealthy c := c.broker.isOpen

end LobbyPlacement
