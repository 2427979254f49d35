import LobbyPlacement.Settings.Validation
import LobbyPlacement.Toml.Reader

/-!
# Sources of settings

Settings start from their defaults; a file comes over them and the environment over both. What was
merged is validated before anybody sees it.
-/

namespace LobbyPlacement

abbrev Environment := List (String × String)

/-- A settings file: what it is called and its bytes, or why they could not be read. -/
structure SettingsFile where
  path : String
  content : Except String Text.Utf8.Bytes

inductive SettingsFault
  | unreadable (path reason : String)
  | document (path : Option String) (fault : DocumentFault)
  | badValue (name value : String)
  | backend (name : String)
  | mode (fault : Fault)
  | invalid (fault : Invalidity)

namespace SettingsFault

def backendMessage (name : String) : String := "Unknown event backend: " ++ name

def message : SettingsFault → String
  | unreadable path reason => "Failed to read config file " ++ path ++ ": " ++ reason
  | document (some path) _ =>
    "Failed to parse config file " ++ path ++ ": Invalid TOML configuration"
  | document none _ => "Invalid TOML configuration"
  | badValue name value => "Invalid " ++ name ++ " value: " ++ value
  | backend name => backendMessage name
  | mode fault => "Invalid ASSIGNMENT_WRITE_MODE value: " ++ fault.message
  | invalid fault => fault.message

end SettingsFault

structure Variable where
  name : String
  set : String → Settings → Except SettingsFault Settings

namespace Variable

def plain (name : String) (set : String → Settings → Settings) : Variable :=
  ⟨name, fun v s => .ok (set v s)⟩

def number (name : String) (largest : Nat) (set : Nat → Settings → Settings) : Variable :=
  ⟨name, fun v s => match Text.numeral? largest v.toList with
    | some n => .ok (set n s)
    | none => .error (.badValue name v)⟩

def all : List Variable := [
  plain "SERVICE_NAME" fun v s => { s with service.name := v },
  plain "LOG_LEVEL" fun v s => { s with service.logLevel := v },
  plain "HTTP_HOST" fun v s => { s with service.httpHost := v },
  number "HTTP_PORT" Text.maxUInt16 fun n s => { s with service.httpPort := n },
  number "METRICS_PORT" Text.maxUInt16 fun n s => { s with service.metricsPort := n },
  number "SHUTDOWN_TIMEOUT_SECONDS" Text.maxUInt64 fun n s =>
    { s with service.shutdownSeconds := n },
  plain "GAME_SERVERS" fun v s => { s with servers := Text.splitEntries v },
  ⟨"EVENT_BACKEND", fun v s => match Backend.ofText v with
    | .ok backend => .ok { s with events.backend := backend }
    | .error name => .error (.backend name)⟩,
  plain "EVENT_CHANNEL" fun v s => { s with events.channel := v },
  plain "AMQP_URL" fun v s => { s with events.brokerUrl := v },
  number "AMQP_MAX_RETRY_ATTEMPTS" Text.maxUInt32 fun n s => { s with events.maxRetries := n },
  number "AMQP_RETRY_DELAY_MS" Text.maxUInt64 fun n s => { s with events.retryDelay := n },
  number "EVENT_PUBLISH_TIMEOUT_MS" Text.maxUInt64 fun n s =>
    { s with events.publishTimeout := n },
  number "EVENT_ANNOUNCE_TIMEOUT_MS" Text.maxUInt64 fun n s =>
    { s with events.announceTimeout := n },
  ⟨"ASSIGNMENT_WRITE_MODE", fun v s => match WriteMode.ofText v with
    | .ok mode => .ok { s with mode := mode }
    | .error fault => .error (.mode fault)⟩]

/-- The variable's value in an environment, if it has one, taken over. -/
def apply (env : Environment) (s : Settings) (v : Variable) : Except SettingsFault Settings :=
  match env.lookup v.name with
  | some value => v.set value s
  | none => .ok s

end Variable

namespace Settings

def ofToml (path : Option String) (text : String) : Except SettingsFault Settings :=
  match (Toml.read text).bind (Settings.ofDocument .toml) with
  | .ok s => .ok s
  | .error fault => .error (.document path fault)

def ofFile (f : SettingsFile) : Except SettingsFault Settings :=
  match f.content with
  | .error reason => .error (.unreadable f.path reason)
  | .ok bytes =>
    match Text.Utf8.decode bytes with
    | .ok text => ofToml (some f.path) text
    | .error _ => .error (.unreadable f.path "stream did not contain valid UTF-8")

def overridden (env : Environment) (s : Settings) : Except SettingsFault Settings :=
  Variable.all.foldlM (Variable.apply env) s

def validated (s : Settings) : Except SettingsFault Settings :=
  match s.validate with
  | .ok () => .ok s
  | .error fault => .error (.invalid fault)

/-- The settings of a file, or the defaults without one, under those of the environment. -/
def load (file : Option SettingsFile) (env : Environment) : Except SettingsFault Settings := do
  let base ← match file with
    | some f => ofFile f
    | none => .ok standard
  (← base.overridden env).validated

end Settings

end LobbyPlacement
