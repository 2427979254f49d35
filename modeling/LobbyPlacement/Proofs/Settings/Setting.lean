import LobbyPlacement.CommandLine.Options

/-!
# Settings one by one

The settings as a table: the section in which each of them stands, what it is called in a document
and in an environment, and how its value is read there. A setting is a part of its section and a
section a part of the settings, so that what is read for one leaves the others as they are.
`Section.fields_eq`, `Setting.fields_eq` and `Variable.sets_setting` say that documents and
environments are read by this table, and `Settings.ext_of` that nothing is missing from it.
-/

namespace LobbyPlacement

inductive Section
  | service
  | pool
  | events
  | assignment
deriving DecidableEq, Repr

namespace Section

def all : List Section := [service, pool, events, assignment]

theorem mem_all (c : Section) : c ∈ all := by cases c <;> decide

def title : Section → String
  | service => "service"
  | pool => "pool"
  | events => "events"
  | assignment => "assignment"

def titles : List String := all.map title

theorem title_injective : Function.Injective title := by
  intro c e same
  cases c <;> cases e <;> first | rfl | exact absurd same (by decide)

abbrev Record : Section → Type
  | service => ServiceSettings
  | pool => List String
  | events => EventSettings
  | assignment => WriteMode

def get : (c : Section) → Settings → c.Record
  | service, s => s.service
  | pool, s => s.servers
  | events, s => s.events
  | assignment, s => s.mode

def put : (c : Section) → c.Record → Settings → Settings
  | service, r, s => { s with service := r }
  | pool, r, s => { s with servers := r }
  | events, r, s => { s with events := r }
  | assignment, r, s => { s with mode := r }

@[simp]
theorem get_put (c : Section) (r : c.Record) (s : Settings) : c.get (c.put r s) = r := by
  cases c <;> rfl

theorem get_put_of_ne {c e : Section} (other : c ≠ e) (r : e.Record) (s : Settings) :
    c.get (e.put r s) = c.get s := by
  cases c <;> cases e <;> first | rfl | exact absurd rfl other

def shape : (c : Section) → Shape c.Record
  | service => ServiceSettings.shape
  | pool => Settings.poolShape
  | events => EventSettings.shape
  | assignment => Settings.modeShape

/-- A section as a part of the settings, read over its defaults. -/
def field (c : Section) : Field Settings :=
  ⟨c.title, fun l d s => do return c.put (← c.shape.read l (c.get .standard) d) s⟩

theorem fields_eq : Settings.shape.fields = all.map field := rfl

end Section

inductive Setting : Section → Type
  | name : Setting .service
  | logLevel : Setting .service
  | httpHost : Setting .service
  | httpPort : Setting .service
  | metricsPort : Setting .service
  | shutdownSeconds : Setting .service
  | servers : Setting .pool
  | backend : Setting .events
  | channel : Setting .events
  | brokerUrl : Setting .events
  | maxRetries : Setting .events
  | retryDelay : Setting .events
  | publishTimeout : Setting .events
  | announceTimeout : Setting .events
  | localCapacity : Setting .events
  | mode : Setting .assignment
deriving DecidableEq

namespace Setting

variable {c : Section}

def ofSection : (c : Section) → List (Setting c)
  | .service => [name, logLevel, httpHost, httpPort, metricsPort, shutdownSeconds]
  | .pool => [servers]
  | .events => [backend, channel, brokerUrl, maxRetries, retryDelay, publishTimeout,
      announceTimeout, localCapacity]
  | .assignment => [mode]

theorem mem_ofSection (f : Setting c) : f ∈ ofSection c := by cases f <;> decide

abbrev Value : {c : Section} → Setting c → Type
  | _, name | _, logLevel | _, httpHost | _, channel | _, brokerUrl => String
  | _, httpPort | _, metricsPort | _, shutdownSeconds | _, maxRetries | _, retryDelay
  | _, publishTimeout | _, announceTimeout | _, localCapacity => Nat
  | _, servers => List String
  | _, backend => Backend
  | _, mode => WriteMode

def get : {c : Section} → (f : Setting c) → c.Record → f.Value
  | _, name, r => r.name
  | _, logLevel, r => r.logLevel
  | _, httpHost, r => r.httpHost
  | _, httpPort, r => r.httpPort
  | _, metricsPort, r => r.metricsPort
  | _, shutdownSeconds, r => r.shutdownSeconds
  | _, servers, r => r
  | _, backend, r => r.backend
  | _, channel, r => r.channel
  | _, brokerUrl, r => r.brokerUrl
  | _, maxRetries, r => r.maxRetries
  | _, retryDelay, r => r.retryDelay
  | _, publishTimeout, r => r.publishTimeout
  | _, announceTimeout, r => r.announceTimeout
  | _, localCapacity, r => r.localCapacity
  | _, mode, r => r

def put : {c : Section} → (f : Setting c) → f.Value → c.Record → c.Record
  | _, name, a, r => { r with name := a }
  | _, logLevel, a, r => { r with logLevel := a }
  | _, httpHost, a, r => { r with httpHost := a }
  | _, httpPort, a, r => { r with httpPort := a }
  | _, metricsPort, a, r => { r with metricsPort := a }
  | _, shutdownSeconds, a, r => { r with shutdownSeconds := a }
  | _, servers, a, _ => a
  | _, backend, a, r => { r with backend := a }
  | _, channel, a, r => { r with channel := a }
  | _, brokerUrl, a, r => { r with brokerUrl := a }
  | _, maxRetries, a, r => { r with maxRetries := a }
  | _, retryDelay, a, r => { r with retryDelay := a }
  | _, publishTimeout, a, r => { r with publishTimeout := a }
  | _, announceTimeout, a, r => { r with announceTimeout := a }
  | _, localCapacity, a, r => { r with localCapacity := a }
  | _, mode, a, _ => a

@[simp]
theorem get_put (f : Setting c) (a : f.Value) (r : c.Record) : f.get (f.put a r) = a := by
  cases f <;> rfl

theorem get_put_of_ne {f g : Setting c} (other : f ≠ g) (a : g.Value) (r : c.Record) :
    f.get (g.put a r) = f.get r := by
  cases f <;> cases g <;> first | rfl | exact absurd rfl other

theorem record_ext {r r' : c.Record} (same : ∀ f : Setting c, f.get r = f.get r') : r = r' := by
  cases c with
  | service =>
    rcases r with ⟨⟩
    rcases r' with ⟨⟩
    rw [ServiceSettings.mk.injEq]
    exact ⟨same name, same logLevel, same httpHost, same httpPort, same metricsPort,
      same shutdownSeconds⟩
  | pool => exact same servers
  | events =>
    rcases r with ⟨⟩
    rcases r' with ⟨⟩
    rw [EventSettings.mk.injEq]
    exact ⟨same backend, same channel, same brokerUrl, same maxRetries, same retryDelay,
      same publishTimeout, same announceTimeout, same localCapacity⟩
  | assignment => exact same mode

/-- The setting's value among all the settings. -/
def of (f : Setting c) (s : Settings) : f.Value := f.get (c.get s)

/-- The settings with another value for this one. -/
def update (f : Setting c) (a : f.Value) (s : Settings) : Settings := c.put (f.put a (c.get s)) s

@[simp]
theorem of_update (f : Setting c) (a : f.Value) (s : Settings) : f.of (f.update a s) = a := by
  simp [of, update]

theorem of_update_of_ne {e : Section} {f : Setting c} {g : Setting e}
    (other : Sigma.mk c f ≠ Sigma.mk e g) (a : g.Value) (s : Settings) :
    f.of (g.update a s) = f.of s := by
  by_cases same : c = e
  · subst same
    have different : f ≠ g := fun equal => other (equal ▸ rfl)
    simp [of, update, get_put_of_ne different]
  · rw [of, update, Section.get_put_of_ne same, of]

end Setting

theorem Settings.ext_of {s t : Settings}
    (same : ∀ {c : Section} (f : Setting c), f.of s = f.of t) : s = t := by
  have sections : ∀ c : Section, c.get s = c.get t := fun c => Setting.record_ext fun f => same f
  rcases s with ⟨⟩
  rcases t with ⟨⟩
  rw [Settings.mk.injEq]
  exact ⟨sections .service, sections .pool, sections .events, sections .assignment⟩

namespace Setting

variable {c : Section}

/-! ### In a document -/

def key : {c : Section} → Setting c → String
  | _, name => "name"
  | _, logLevel => "log_level"
  | _, httpHost => "http_host"
  | _, httpPort => "http_port"
  | _, metricsPort => "metrics_port"
  | _, shutdownSeconds => "shutdown_timeout_seconds"
  | _, servers => "servers"
  | _, backend => "backend"
  | _, channel => "channel"
  | _, brokerUrl => "amqp_url"
  | _, maxRetries => "max_retry_attempts"
  | _, retryDelay => "retry_delay_ms"
  | _, publishTimeout => "publish_timeout_ms"
  | _, announceTimeout => "announce_timeout_ms"
  | _, localCapacity => "local_capacity"
  | _, mode => "write_mode"

def keys (c : Section) : List String := (ofSection c).map key

theorem key_injective : Function.Injective (key : Setting c → String) := by
  intro f g same
  cases f <;> cases g <;> first | rfl | exact absurd same (by decide)

def readDocument : {c : Section} → (f : Setting c) → Dialect → Document → Document.Reading f.Value
  | _, name | _, logLevel | _, httpHost | _, channel | _, brokerUrl => Document.readText
  | _, httpPort | _, metricsPort => Document.readNat Text.maxUInt16 "u16"
  | _, maxRetries => Document.readNat Text.maxUInt32 "u32"
  | _, shutdownSeconds | _, retryDelay | _, publishTimeout | _, announceTimeout =>
    Document.readNat Text.maxUInt64 "u64"
  | _, localCapacity => Document.readNat Text.maxUInt64 "usize"
  | _, servers => Document.readTexts
  | _, backend => Document.readChoice Backend.choices
  | _, mode => Document.readChoice WriteMode.choices

/-- A setting as a part of its section. -/
def field (f : Setting c) : Field c.Record :=
  ⟨f.key, fun l d r => do return f.put (← f.readDocument l d) r⟩

theorem fields_eq (c : Section) : c.shape.fields = (ofSection c).map field := by
  cases c with
  | service | events => rfl
  | pool | assignment =>
    simp only [Section.shape, Settings.poolShape, Settings.modeShape, ofSection, List.map_cons,
      List.map_nil, field, put, bind_pure]
    rfl

/-! ### In an environment -/

/-- The local capacity is not set by an environment. -/
def environmentName? : {c : Section} → Setting c → Option String
  | _, name => some "SERVICE_NAME"
  | _, logLevel => some "LOG_LEVEL"
  | _, httpHost => some "HTTP_HOST"
  | _, httpPort => some "HTTP_PORT"
  | _, metricsPort => some "METRICS_PORT"
  | _, shutdownSeconds => some "SHUTDOWN_TIMEOUT_SECONDS"
  | _, servers => some "GAME_SERVERS"
  | _, backend => some "EVENT_BACKEND"
  | _, channel => some "EVENT_CHANNEL"
  | _, brokerUrl => some "AMQP_URL"
  | _, maxRetries => some "AMQP_MAX_RETRY_ATTEMPTS"
  | _, retryDelay => some "AMQP_RETRY_DELAY_MS"
  | _, publishTimeout => some "EVENT_PUBLISH_TIMEOUT_MS"
  | _, announceTimeout => some "EVENT_ANNOUNCE_TIMEOUT_MS"
  | _, localCapacity => none
  | _, mode => some "ASSIGNMENT_WRITE_MODE"

theorem eq_of_environmentName {e : Section} {f : Setting c} {g : Setting e} {variableName : String}
    (first : f.environmentName? = some variableName)
    (second : g.environmentName? = some variableName) : Sigma.mk c f = Sigma.mk e g := by
  have same : f.environmentName? = g.environmentName? := first.trans second.symm
  cases f <;> cases g <;> first | rfl | exact absurd same (by decide)

def readText? : {c : Section} → (f : Setting c) → String → Option f.Value
  | _, name, v | _, logLevel, v | _, httpHost, v | _, channel, v | _, brokerUrl, v => some v
  | _, httpPort, v | _, metricsPort, v => Text.numeral? Text.maxUInt16 v.toList
  | _, maxRetries, v => Text.numeral? Text.maxUInt32 v.toList
  | _, shutdownSeconds, v | _, retryDelay, v | _, publishTimeout, v | _, announceTimeout, v
  | _, localCapacity, v => Text.numeral? Text.maxUInt64 v.toList
  | _, servers, v => some (Text.splitEntries v)
  | _, backend, v => (Backend.ofText v).toOption
  | _, mode, v => (WriteMode.ofText v).toOption

end Setting

namespace Variable

/-- A variable sets one setting. -/
structure Sets (v : Variable) {c : Section} (f : Setting c) : Prop where
  named : f.environmentName? = some v.name
  put : ∀ text s, (v.set text s).toOption = (f.readText? text).map fun a => f.update a s

theorem Sets.plain {c : Section} {f : Setting c} {name : String}
    {set : String → Settings → Settings} {read : String → f.Value}
    (named : f.environmentName? = some name) (reads : ∀ text, f.readText? text = some (read text))
    (put : ∀ text s, set text s = f.update (read text) s) : (plain name set).Sets f :=
  ⟨named, fun text s => by rw [reads, Option.map_some, ← put]; rfl⟩

theorem Sets.number {c : Section} {f : Setting c} {name : String} {largest : Nat}
    {set : Nat → Settings → Settings} {value : Nat → f.Value}
    (named : f.environmentName? = some name)
    (reads : ∀ text, f.readText? text = (Text.numeral? largest text.toList).map value)
    (put : ∀ n s, set n s = f.update (value n) s) : (number name largest set).Sets f := by
  refine ⟨named, fun text s => ?_⟩
  simp only [Variable.number, reads]
  cases Text.numeral? largest text.toList with
  | none => rfl
  | some n => exact congrArg some (put n s)

theorem sets_setting : ∀ v ∈ all, ∃ (c : Section) (f : Setting c), v.Sets f := by
  simp only [all, List.forall_mem_cons, List.not_mem_nil, false_imp_iff, implies_true, and_true]
  refine ⟨⟨_, .name, .plain rfl (fun _ => rfl) fun _ _ => rfl⟩,
    ⟨_, .logLevel, .plain rfl (fun _ => rfl) fun _ _ => rfl⟩,
    ⟨_, .httpHost, .plain rfl (fun _ => rfl) fun _ _ => rfl⟩,
    ⟨_, .httpPort, .number rfl (fun _ => Option.map_id'.symm) fun _ _ => rfl⟩,
    ⟨_, .metricsPort, .number rfl (fun _ => Option.map_id'.symm) fun _ _ => rfl⟩,
    ⟨_, .shutdownSeconds, .number rfl (fun _ => Option.map_id'.symm) fun _ _ => rfl⟩,
    ⟨_, .servers, .plain rfl (fun _ => rfl) fun _ _ => rfl⟩,
    ⟨_, .backend, rfl, fun text s => ?_⟩,
    ⟨_, .channel, .plain rfl (fun _ => rfl) fun _ _ => rfl⟩,
    ⟨_, .brokerUrl, .plain rfl (fun _ => rfl) fun _ _ => rfl⟩,
    ⟨_, .maxRetries, .number rfl (fun _ => Option.map_id'.symm) fun _ _ => rfl⟩,
    ⟨_, .retryDelay, .number rfl (fun _ => Option.map_id'.symm) fun _ _ => rfl⟩,
    ⟨_, .publishTimeout, .number rfl (fun _ => Option.map_id'.symm) fun _ _ => rfl⟩,
    ⟨_, .announceTimeout, .number rfl (fun _ => Option.map_id'.symm) fun _ _ => rfl⟩,
    ⟨_, .mode, rfl, fun text s => ?_⟩⟩
  · simp only [Setting.readText?]
    cases Backend.ofText text <;> rfl
  · simp only [Setting.readText?]
    cases WriteMode.ofText text <;> rfl

theorem exists_sets {c : Section} {f : Setting c} {name : String}
    (named : f.environmentName? = some name) : ∃ v ∈ all, v.Sets f := by
  have known : f.environmentName? ∈ all.map fun v => some v.name := by
    cases f <;> first | decide | cases named
  obtain ⟨v, member, same⟩ := List.mem_map.mp known
  obtain ⟨e, g, sets⟩ := sets_setting v member
  cases Setting.eq_of_environmentName same.symm sets.named
  exact ⟨v, member, sets⟩

end Variable

end LobbyPlacement
