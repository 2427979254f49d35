import LobbyPlacement.Broker.Connection
import LobbyPlacement.Service.Basic
import LobbyPlacement.Text.Duration

/-!
# Putting a service together

A service needs a valid pool and a transport for its announcements. The bus is there at once; a
broker has to be reached first, and its channel opened.
-/

namespace LobbyPlacement

inductive ServiceFault
  | pool (fault : PoolFault)
  | brokerUrl (fault : BrokerAddressFault)
  | connection (fault : Fault)
  | channel (fault : Fault)

def ServiceFault.message : ServiceFault → String
  | pool fault => "Configuration error: Invalid server pool: " ++ fault.fault.message
  | brokerUrl fault => "Configuration error: Failed to parse AMQP URL: " ++ fault.fault.message
  | connection fault => "AMQP connection error: Failed to connect to AMQP: " ++ fault.message
  | channel fault => "AMQP connection error: Failed to open publisher channel: " ++ fault.message

/-- What came of putting something together. -/
inductive Assembled (α : Type)
  | ready (a : α)
  | refused (fault : ServiceFault)
  | crashed
  /-- It waits for an answer that does not come. -/
  | stuck

/-- A transport put together: when that was over, the broker as it was left, and what was told. -/
structure TransportAssembly where
  now : Nat
  broker : Broker
  journal : Journal
  result : Assembled Transport

namespace Settings

def brokerAddress (s : EventSettings) : Except BrokerAddressFault BrokerAddress :=
  (BrokerAddress.ofUrl s.brokerUrl).map fun a =>
    { a with maxRetries := s.maxRetries, retryDelay := s.retryDelay }

def dispatchRule (s : EventSettings) : DispatchRule :=
  ⟨s.maxRetries, s.retryDelay, s.publishTimeout⟩

def rules (s : Settings) (pool : Pool) : Rules :=
  ⟨pool, s.mode, s.events.channel, s.events.announceTimeout⟩

end Settings

namespace Assembly

def setbackLine (number : Nat) (setback : Setback) : JournalLine :=
  .warn ("AMQP connection attempt " ++ Text.decimal number ++ " failed: " ++
    setback.fault.message ++ ". Retrying in " ++ Text.durationText setback.wait)

def setbackLines (setbacks : List Setback) : Journal :=
  setbacks.mapIdx fun i setback => setbackLine (i + 1) setback

def connectedLine (a : BrokerAddress) : JournalLine :=
  .info ("Connected to AMQP broker at " ++ a.host ++ ":" ++ Text.decimal a.port ++ a.vhost)

def openChannel (rule : DispatchRule) (now : Nat) (journal : Journal) (b : Broker) :
    TransportAssembly :=
  match b.openChannel now with
  | (b, .settled after (.ok ())) =>
    ⟨now + after, b, journal, .ready (.inr (.opened b rule))⟩
  | (b, .settled after (.error fault)) => ⟨now + after, b, journal, .refused (.channel fault)⟩
  | (b, .crashed after) => ⟨now + after, b, journal, .crashed⟩
  | (b, .pending) => ⟨now, b, journal, .stuck⟩

def connect (rule : DispatchRule) (a : BrokerAddress) (b : Broker) : TransportAssembly :=
  let started : Journal :=
    [.info ("Connecting to AMQP broker at " ++ a.host ++ ":" ++ Text.decimal a.port)]
  let (b, setbacks, attempt) := b.connect a 0
  let journal := started ++ setbackLines setbacks
  match attempt with
  | .settled after (.ok ()) => openChannel rule after (journal ++ [connectedLine a]) b
  | .settled after (.error fault) =>
    ⟨after, b, journal ++ [.error ("Failed to connect to AMQP after " ++
      Text.decimal a.maxRetries ++ " retries")], .refused (.connection fault)⟩
  | .crashed after => ⟨after, b, journal, .crashed⟩
  | .pending => ⟨0, b, journal, .stuck⟩

def transport (s : EventSettings) (b : Broker) : TransportAssembly :=
  match s.backend with
  | .localBus =>
    ⟨0, b, [.info ("Using in-process event bus for channel '" ++ s.channel ++ "'")],
      .ready (.inl (.ofCapacity s.localCapacity))⟩
  | .broker =>
    match Settings.brokerAddress s with
    | .error fault => ⟨0, b, [], .refused (.brokerUrl fault)⟩
    | .ok a => connect (Settings.dispatchRule s) a b

end Assembly

structure Assembly (σ : Type) where
  broker : Broker
  journal : Journal
  result : Assembled (Service σ)

namespace Service

variable {σ : Type}

def firstLine : JournalLine := .info "Initializing game coordinator service"

def settingsLine (s : Settings) (pool : Pool) : JournalLine :=
  .info ("Configuration: service=" ++ s.service.name ++ ", pool=" ++ pool.text ++ ", events=" ++
    s.events.backend.text)

/-- A service that is ready to start. Its uptime counts from when its transport was there. -/
def ofTransport (s : Settings) (pool : Pool) (store : σ) (now : Nat) (transport : Transport) :
    Service σ :=
  ⟨s, { Desk.opening (s.rules pool) store transport with now := now }, now, false,
    s.events.backend = .broker, [], []⟩

def assemble (s : Settings) (store : σ) (b : Broker) : Assembly σ :=
  match Pool.ofList s.servers with
  | .error fault => ⟨b, [firstLine], .refused (.pool fault)⟩
  | .ok pool =>
    let t := Assembly.transport s.events b
    let journal := [firstLine, settingsLine s pool] ++ t.journal
    ⟨t.broker, journal, match t.result with
      | .ready transport => .ready (ofTransport s pool store t.now transport)
      | .refused fault => .refused fault
      | .crashed => .crashed
      | .stuck => .stuck⟩

end Service

end LobbyPlacement
