import LobbyPlacement.Journal
import LobbyPlacement.Pool
import LobbyPlacement.Settings.Basic

/-!
# Valid settings

What a service refuses to start with. The faults are looked for in one order and the first is told.
-/

namespace LobbyPlacement

inductive Invalidity
  | logLevel (level : String)
  | httpPortZero
  | metricsPortZero
  | samePorts (port : Nat)
  | noShutdownTime
  | noPublishTime
  | noAnnounceTime
  | pool (fault : PoolFault)
  | noChannel
  | noBrokerUrl
deriving DecidableEq, Repr

def Invalidity.message : Invalidity → String
  | logLevel level => "Invalid log level: " ++ level
  | httpPortZero => "HTTP port cannot be 0"
  | metricsPortZero => "Metrics port cannot be 0"
  | samePorts port => "HTTP port and metrics port must differ (both " ++ Text.decimal port ++ ")"
  | noShutdownTime => "Shutdown timeout must be greater than 0"
  | noPublishTime => "Publish timeout must be greater than 0"
  | noAnnounceTime => "Announce timeout must be greater than 0"
  | pool fault => fault.fault.message
  | noChannel => "Event channel cannot be empty"
  | noBrokerUrl => "AMQP URL cannot be empty when the amqp backend is selected"

namespace Settings

def firstInvalidity? (s : Settings) : Option Invalidity :=
  if (LogLevel.ofText? s.service.logLevel).isNone then some (.logLevel s.service.logLevel)
  else if s.service.httpPort = 0 then some .httpPortZero
  else if s.service.metricsPort = 0 then some .metricsPortZero
  else if s.service.httpPort = s.service.metricsPort then some (.samePorts s.service.httpPort)
  else if s.service.shutdownSeconds = 0 then some .noShutdownTime
  else if s.events.publishTimeout = 0 then some .noPublishTime
  else if s.events.announceTimeout = 0 then some .noAnnounceTime
  else match Pool.ofList s.servers with
    | .error fault => some (.pool fault)
    | .ok _ =>
      if s.events.channel = "" then some .noChannel
      else if s.events.backend = .broker && s.events.brokerUrl = "" then some .noBrokerUrl
      else none

def validate (s : Settings) : Except Invalidity Unit :=
  match s.firstInvalidity? with
  | some fault => .error fault
  | none => .ok ()

end Settings

end LobbyPlacement
