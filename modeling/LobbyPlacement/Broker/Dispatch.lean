import LobbyPlacement.Announcement
import LobbyPlacement.Broker.Basic
import LobbyPlacement.Broker.Patience

/-!
# Dispatches

One payload on its way to an exchange, by one publication of the publisher for a broker. Its
exchange is declared first unless that has been done; then the message is handed over, for a limited
time. After a failure the dispatch rests and starts again. `step` is what happens at once whenever a
dispatch is looked after; between two steps it waits, and a dispatch given up while it waits has
changed nothing by the answer it waited for.
-/

namespace LobbyPlacement

structure DispatchRule where
  maxRetries : Nat
  retryDelay : Nat
  /-- The longest time for one handing over. -/
  timeout : Nat
deriving DecidableEq, Repr

namespace DispatchRule

def standard : DispatchRule := ⟨3, 500, 1000⟩

def longestWait : Nat := 5000

def retryRule (r : DispatchRule) : RetryRule := ⟨r.maxRetries, r.retryDelay, longestWait⟩

end DispatchRule

structure BrokerChannel where
  broker : Broker
  rule : DispatchRule
  declared : List String

namespace BrokerChannel

def opened (broker : Broker) (rule : DispatchRule) : BrokerChannel := ⟨broker, rule, []⟩

end BrokerChannel

namespace Dispatch

/-- What a dispatch waits for, with what it is going to hear. -/
inductive Stage
  | declaring (refusal : Option String)
  | handing (result : Except Fault Unit)
  | resting

end Dispatch

structure Dispatch where
  exchange : String
  payload : Text.Utf8.Bytes
  patience : Patience

namespace Dispatch

/-- How a step leaves a dispatch: waiting until some time, if ever, or at its end. -/
inductive Turn
  | waiting (wake : Option Nat) (stage : Stage) (d : Dispatch)
  | over (result : Except Fault Unit)
  | crashed

def fanout : String := "fanout"

def message (d : Dispatch) : Message := ⟨d.exchange, "", Announcement.contentType, d.payload⟩

def declarationFault (exchange refusal : String) : Fault :=
  .publish ("Failed to declare exchange '" ++ exchange ++ "': " ++ refusal)

def handingFault (refusal : String) : Fault := .publish ("Failed to publish message: " ++ refusal)

def timeoutFault (timeout : Nat) : Fault :=
  .publish ("Publish timed out after " ++ Text.decimal timeout ++ "ms")

def handingResult : Option String → Except Fault Unit
  | none => .ok ()
  | some refusal => .error (handingFault refusal)

/-- Hands the message over. An answer at the last moment is in time. -/
def hand (d : Dispatch) (c : BrokerChannel) (now : Nat) : BrokerChannel × Turn :=
  let (broker, response) := c.broker.meet now (.publish d.message)
  let late : Turn :=
    .waiting (some (now + c.rule.timeout)) (.handing (.error (timeoutFault c.rule.timeout))) d
  ({ c with broker := broker }, match response with
    | .after delay refusal =>
      if delay ≤ c.rule.timeout then
        .waiting (some (now + delay)) (.handing (handingResult refusal)) d
      else late
    | .silence => late)

/-- Starts an attempt. The time for a declaration is not limited. -/
def enter (d : Dispatch) (c : BrokerChannel) (now : Nat) : BrokerChannel × Turn :=
  if d.exchange ∈ c.declared then d.hand c now
  else
    let (broker, response) := c.broker.meet now (.declare d.exchange fanout)
    ({ c with broker := broker }, match response with
      | .after delay refusal => .waiting (some (now + delay)) (.declaring refusal) d
      | .silence => .waiting none (.declaring none) d)

/-- Counts a failed attempt and rests, unless it was the last. -/
def fail (d : Dispatch) (rule : RetryRule) (now : Nat) (fault : Fault) : Turn :=
  match d.patience.afterFailure rule with
  | .giveUp => .over (.error fault)
  | .overflow => .crashed
  | .retry counted => .waiting (some (now + counted.wait)) .resting { d with patience := counted }

def step (d : Dispatch) (c : BrokerChannel) (now : Nat) : Stage → BrokerChannel × Turn
  | .declaring none => d.hand { c with declared := d.exchange :: c.declared } now
  | .declaring (some refusal) =>
    (c, d.fail c.rule.retryRule now (declarationFault d.exchange refusal))
  | .handing (.ok ()) => (c, .over (.ok ()))
  | .handing (.error fault) => (c, d.fail c.rule.retryRule now fault)
  | .resting =>
    match d.patience.afterWait c.rule.retryRule with
    | some next => { d with patience := next }.enter c now
    | none => (c, .crashed)

def begin (exchange : String) (payload : Text.Utf8.Bytes) (c : BrokerChannel) (now : Nat) :
    BrokerChannel × Turn :=
  Dispatch.enter ⟨exchange, payload, .start c.rule.retryRule⟩ c now

/-! ### Dispatches end -/

/-- The later the stage of an attempt, the lower; a rest comes before the next attempt. -/
def Stage.rank : Stage → Nat
  | .resting => 3
  | .declaring _ => 2
  | .handing _ => 1

/-- The failures that may still come, and within an attempt the stages. -/
def Turn.rank : Turn → Nat × Nat
  | .waiting _ stage d => (d.patience.room, stage.rank)
  | _ => (0, 0)

abbrev Below (a b : Nat × Nat) : Prop := Prod.Lex (· < ·) (· < ·) a b

theorem zero_below (room rank : Nat) : Below (0, 0) (room, rank + 1) :=
  match room with
  | 0 => .right _ (Nat.succ_pos _)
  | _ + 1 => .left _ _ (Nat.succ_pos _)

theorem rank_hand (d : Dispatch) (c : BrokerChannel) (now : Nat) :
    (d.hand c now).2.rank = (d.patience.room, 1) := by
  simp only [hand]
  split
  · split <;> rfl
  · rfl

theorem rank_enter_below (d : Dispatch) (c : BrokerChannel) (now : Nat) :
    Below (d.enter c now).2.rank (d.patience.room, 3) := by
  simp only [enter]
  split
  · rw [rank_hand]
    exact .right _ (by decide)
  · dsimp only
    split <;> exact .right _ (Nat.lt_succ_self 2)

theorem rank_fail_below (d : Dispatch) (rule : RetryRule) (now rank : Nat) (fault : Fault) :
    Below (d.fail rule now fault).rank (d.patience.room, rank + 1) := by
  simp only [fail]
  split
  next => exact zero_below _ _
  next => exact zero_below _ _
  next counted retried => exact .left _ _ (Patience.room_afterFailure retried)

/-- Every step brings a dispatch closer to its end. -/
theorem rank_step_below (d : Dispatch) (c : BrokerChannel) (now : Nat) (stage : Stage) :
    Below (d.step c now stage).2.rank (d.patience.room, stage.rank) := by
  simp only [step]
  split
  next =>
    rw [rank_hand]
    exact .right _ (Nat.lt_succ_self 1)
  next => exact d.rank_fail_below _ now _ _
  next => exact zero_below _ _
  next => exact d.rank_fail_below _ now _ _
  next =>
    split
    next next fits =>
      have below := rank_enter_below { d with patience := next } c now
      have same : next.room = d.patience.room := by
        simp only [Patience.room, Patience.failures_afterWait fits]
      rw [same] at below
      exact below
    next => exact zero_below _ _

end Dispatch

end LobbyPlacement
