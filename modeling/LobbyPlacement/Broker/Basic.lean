import LobbyPlacement.Broker.Address
import LobbyPlacement.Publisher

/-!
# Brokers

A broker meets each call in its own time: it grants it, refuses it with a text, or never answers.
How it meets the next calls of each kind is planned; a call without a plan is granted at once. Every
call is logged when it is made.
-/

namespace LobbyPlacement

structure Message where
  exchange : String
  routingKey : String
  contentType : String
  payload : Text.Utf8.Bytes

inductive BrokerCall
  | connect (address : BrokerAddress)
  | openChannel
  | declare (exchange kind : String)
  | publish (message : Message)
  | close

/-- A call is granted or refused after some time, or never answered. -/
inductive Response
  | after (delay : Nat) (refusal : Option String)
  | silence

/-- The planned responses to each kind of call, the next one first. -/
structure Responses where
  connects : List Response
  channels : List Response
  declarations : List Response
  publications : List Response
  closings : List Response

def Responses.none : Responses := ⟨[], [], [], [], []⟩

structure Broker where
  isReachable : Bool
  isOpen : Bool
  responses : Responses
  /-- The calls made so far, each with its time. -/
  log : List (Nat × BrokerCall)

namespace Broker

def planned (responses : Responses) : Broker := ⟨true, false, responses, []⟩

/-- A broker behind a network that leads nowhere. -/
def unreachable : Broker := ⟨false, false, .none, []⟩

def networkFault : String :=
  "AMQP network error: network io error: Network is unreachable (os error 101)"

def granted : Response := .after 0 none

/-- The planned response to a call, with the plan for those behind it. -/
def respond (r : Responses) : BrokerCall → Responses × Response
  | .connect _ => ({ r with connects := r.connects.tail }, r.connects.headD granted)
  | .openChannel => ({ r with channels := r.channels.tail }, r.channels.headD granted)
  | .declare _ _ => ({ r with declarations := r.declarations.tail }, r.declarations.headD granted)
  | .publish _ => ({ r with publications := r.publications.tail }, r.publications.headD granted)
  | .close => ({ r with closings := r.closings.tail }, r.closings.headD granted)

def meet (b : Broker) (now : Nat) (call : BrokerCall) : Broker × Response :=
  if b.isReachable then
    let (responses, response) := respond b.responses call
    ({ b with responses := responses, log := b.log ++ [(now, call)] }, response)
  else (b, .after 0 (some networkFault))

theorem meet_of_reachable {b : Broker} (reachable : b.isReachable = true) (now : Nat)
    (call : BrokerCall) :
    b.meet now call =
      ({ b with responses := (respond b.responses call).1, log := b.log ++ [(now, call)] },
        (respond b.responses call).2) := by
  simp only [meet, reachable, if_true]

end Broker

def Response.attempt (fault : String → Fault) : Response → Attempt
  | .after delay none => .settled delay (.ok ())
  | .after delay (some refusal) => .settled delay (.error (fault refusal))
  | .silence => .pending

end LobbyPlacement
