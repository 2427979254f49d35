import LobbyPlacement.CommandLine.Element
import LobbyPlacement.Settings.Source

/-!
# Options

What a command line asks for, and the settings that come of it. `Options.ofArguments` takes the
elements from the left, so the first one that ends the reading decides how. `Options.settings` puts
the options over what was loaded and validates once more.
-/

namespace LobbyPlacement

open CommandLine (Element Flag Key)

structure Options where
  config : Option String
  healthCheck : Bool
  logLevel : Option String
  httpPort : Option Nat
  metricsPort : Option Nat
  servers : Option String
  backend : Option Backend
  debug : Bool
  dryRun : Bool
deriving DecidableEq, Repr

/-- What a command line leads to that does not lead to a run. -/
inductive EarlyExit
  | help
  | version
  | misuse
deriving DecidableEq, Repr

def EarlyExit.code : EarlyExit → Nat
  | help | version => 0
  | misuse => 2

namespace Options

def empty : Options := ⟨none, false, none, none, none, none, none, false, false⟩

def port? (s : String) : Option Nat :=
  match s.toList with
  | ['-'] => none
  | '-' :: digits => (Text.digitsValue? 0 digits).filter (· = 0)
  | cs => Text.numeral? Text.maxUInt16 cs

/-- A value takes the place of none; a second one, or one that cannot be read, is misuse. -/
def once {α : Type} : (old new : Option α) → Except EarlyExit (Option α)
  | none, some a => .ok (some a)
  | _, _ => .error .misuse

/-- A flag is given at most once. -/
def raised : (old : Bool) → Except EarlyExit Bool
  | false => .ok true
  | true => .error .misuse

def give (o : Options) : Element → Except EarlyExit Options
  | .flag .help => .error .help
  | .flag .version => .error .version
  | .flag .healthCheck => do return { o with healthCheck := ← raised o.healthCheck }
  | .flag .debug => do return { o with debug := ← raised o.debug }
  | .flag .dryRun => do return { o with dryRun := ← raised o.dryRun }
  | .value .config v => do
    return { o with config := ← once o.config (if v = "" then none else some v) }
  | .value .logLevel v => do return { o with logLevel := ← once o.logLevel (some v) }
  | .value .httpPort v => do return { o with httpPort := ← once o.httpPort (port? v) }
  | .value .metricsPort v => do return { o with metricsPort := ← once o.metricsPort (port? v) }
  | .value .servers v => do return { o with servers := ← once o.servers (some v) }
  | .value .backend v => do
    return { o with backend := ← once o.backend (Backend.ofText v).toOption }
  | .stray => .error .misuse

def ofArguments (arguments : List String) : Except EarlyExit Options :=
  (CommandLine.elements arguments).foldlM give empty

/-- The level that the options set; debugging goes before a level given by name. -/
def logLevelOverride (o : Options) : Option String :=
  if o.debug then some LogLevel.debug.name else o.logLevel

/-- Puts what the options set over settings. -/
def override (o : Options) (s : Settings) : Settings :=
  { s with
    service := { s.service with
      logLevel := o.logLevelOverride.getD s.service.logLevel
      httpPort := o.httpPort.getD s.service.httpPort
      metricsPort := o.metricsPort.getD s.service.metricsPort }
    servers := (o.servers.map Text.splitEntries).getD s.servers
    events := { s.events with backend := o.backend.getD s.events.backend } }

/-- The settings of a run: of the file, the environment and the options, valid without the options
and with them. -/
def settings (o : Options) (file : Option SettingsFile) (env : Environment) :
    Except SettingsFault Settings := do
  (o.override (← Settings.load file env)).validated

end Options

end LobbyPlacement
