import LobbyPlacement.Broker.Basic
import LobbyPlacement.Broker.Patience

/-!
# Connections to a broker

Connecting is tried again after a failure as far as the address allows. On a connection channels
are opened, and closing it ends the channels too.
-/

namespace LobbyPlacement

/-- A failed attempt that is to be repeated, and the wait before that. -/
structure Setback where
  fault : Fault
  wait : Nat

namespace BrokerAddress

def longestWait : Nat := 30000

def retryRule (a : BrokerAddress) : RetryRule := ⟨a.maxRetries, a.retryDelay, longestWait⟩

end BrokerAddress

namespace Broker

def refusedConnection (refusal : String) : Fault :=
  .connection ("Failed to open AMQP connection: " ++ refusal)

def exhausted (last : Fault) : Fault :=
  .connection ("Max connection retries exceeded: " ++ last.message)

/-- Goes on with connecting, some time after the first attempt was started. -/
def connectFrom (a : BrokerAddress) (start : Nat) (p : Patience) (elapsed : Nat) (b : Broker) :
    Broker × List Setback × Attempt :=
  match b.meet (start + elapsed) (.connect a) with
  | (b, .silence) => (b, [], .pending)
  | (b, .after delay none) => ({ b with isOpen := true }, [], .settled (elapsed + delay) (.ok ()))
  | (b, .after delay (some refusal)) =>
    let fault := refusedConnection refusal
    match verdict : p.afterFailure a.retryRule with
    | .overflow => (b, [], .crashed (elapsed + delay))
    | .giveUp => (b, [], .settled (elapsed + delay) (.error (exhausted fault)))
    | .retry counted =>
      let rested := elapsed + delay + counted.wait
      match fits : counted.afterWait a.retryRule with
      | none => (b, [⟨fault, counted.wait⟩], .crashed rested)
      | some next =>
        have := Patience.room_afterFailure verdict
        have := Patience.failures_afterWait fits
        let (b, setbacks, attempt) := connectFrom a start next rested b
        (b, ⟨fault, counted.wait⟩ :: setbacks, attempt)
termination_by p.room
decreasing_by
  simp only [Patience.room] at *
  omega

def connect (a : BrokerAddress) (now : Nat) (b : Broker) : Broker × List Setback × Attempt :=
  b.connectFrom a now (.start a.retryRule) 0

def openChannel (now : Nat) (b : Broker) : Broker × Attempt :=
  let (b, response) := b.meet now .openChannel
  (b, response.attempt fun refusal => .connection ("Failed to open AMQP channel: " ++ refusal))

def close (now : Nat) (b : Broker) : Broker × Attempt :=
  let (b, response) := b.meet now .close
  let b := match response with
    | .after _ none => { b with isOpen := false }
    | _ => b
  (b, response.attempt fun refusal => .connection ("Failed to close AMQP connection: " ++ refusal))

end Broker

end LobbyPlacement
