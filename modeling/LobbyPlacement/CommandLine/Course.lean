import LobbyPlacement.CommandLine.Session

/-!
# The course of a run

From the options, a settings file and the environment to what the program does: it refuses the
settings, is over at once, or has a service at work.
-/

namespace LobbyPlacement

/-- What a run comes to; lines are shown up to its threshold. -/
inductive Course
  | refused (fault : SettingsFault)
  | finished (threshold : Nat) (finish : Finish)
  | started (threshold : Nat) (session : Session)
  | waiting (threshold : Nat) (journal : Journal)

namespace Course

def filterVariable : String := "RUST_LOG"

def serve (threshold : Nat) (s : Settings) (b : Broker) : Course :=
  match Session.launch s b with
  | .started session => .started threshold session
  | .failed finish => .finished threshold finish
  | .waiting journal => .waiting threshold journal

/-- The course with settings that were accepted; `ask` asks the service at an address for its
health. -/
def ofSettings (p : Purpose) (threshold : Nat) (s : Settings) (ask : String → Except String Nat)
    (b : Broker) : Course :=
  match p with
  | .healthCheck => .finished threshold (s.healthCheck ask)
  | .dryRun => .finished threshold s.dryRun
  | .serve => serve threshold s b

def ofOptions (o : Options) (file : Option SettingsFile) (env : Environment)
    (ask : String → Except String Nat) (b : Broker) : Course :=
  match o.settings file env with
  | .error fault => .refused fault
  | .ok s =>
    ofSettings o.purpose (Threshold.inForce (env.lookup filterVariable) s.service.logLevel) s ask b

end Course

end LobbyPlacement
