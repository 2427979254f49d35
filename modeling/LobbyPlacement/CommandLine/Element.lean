import LobbyPlacement.Text.Split

/-!
# Elements of a command line

A command line is read from the left into flags and keys with their values. A key's value stands
behind its name or is the next argument; letters may be grouped, and the last letter of a group may
be a key. Whatever fits nowhere is a stray, and what comes behind one does not matter.
-/

namespace LobbyPlacement.CommandLine

inductive Flag
  | healthCheck
  | debug
  | dryRun
  | help
  | version
deriving DecidableEq, Repr

inductive Key
  | config
  | logLevel
  | httpPort
  | metricsPort
  | servers
  | backend
deriving DecidableEq, Repr

abbrev Switch := Flag ⊕ Key

def longNames : List (String × Switch) := [
  ("config", .inr .config),
  ("health-check", .inl .healthCheck),
  ("log-level", .inr .logLevel),
  ("http-port", .inr .httpPort),
  ("metrics-port", .inr .metricsPort),
  ("servers", .inr .servers),
  ("event-backend", .inr .backend),
  ("debug", .inl .debug),
  ("dry-run", .inl .dryRun),
  ("help", .inl .help),
  ("version", .inl .version)]

def letters : List (Char × Switch) := [
  ('c', .inr .config),
  ('l', .inr .logLevel),
  ('d', .inl .debug),
  ('h', .inl .help),
  ('V', .inl .version)]

inductive Element
  | flag (f : Flag)
  | value (k : Key) (text : String)
  | stray
deriving DecidableEq, Repr

/-- What one argument holds, and the key whose value has to be the next argument. -/
structure Reading where
  elements : List Element
  awaiting : Option Key

namespace Reading

def stray : Reading := ⟨[.stray], none⟩

def value (k : Key) (cs : List Char) : Reading := ⟨[.value k (String.ofList cs)], none⟩

/-- A group of letters. A value behind its key's letter may have an equals sign in front. -/
def ofLetters : List Char → Reading
  | [] => ⟨[], none⟩
  | c :: rest =>
    match letters.lookup c with
    | none => stray
    | some (.inl f) =>
      let more := ofLetters rest
      ⟨.flag f :: more.elements, more.awaiting⟩
    | some (.inr k) =>
      match rest with
      | [] => ⟨[], some k⟩
      | '=' :: cs => value k cs
      | cs => value k cs

/-- A long name, and the value of a key behind an equals sign. Names are never shortened. -/
def ofLongName (cs : List Char) : Reading :=
  match Text.cutFirst? '=' cs with
  | some (name, cs) =>
    match longNames.lookup (String.ofList name) with
    | some (.inr k) => value k cs
    | _ => stray
  | none =>
    match longNames.lookup (String.ofList cs) with
    | some (.inl f) => ⟨[.flag f], none⟩
    | some (.inr k) => ⟨[], some k⟩
    | none => stray

end Reading

/-- A dash in front would begin another option. -/
def canBeValue (argument : String) : Bool :=
  match argument.toList with
  | '-' :: _ :: _ => false
  | _ => true

/-- The elements of the arguments that follow, the first of which a key may be waiting for. Two
dashes end the options, and nothing may come behind them. -/
def elementsFrom : (awaiting : Option Key) → List String → List Element
  | none, [] => []
  | some _, [] => [.stray]
  | some k, argument :: rest =>
    if canBeValue argument then .value k argument :: elementsFrom none rest else [.stray]
  | none, argument :: rest =>
    match argument.toList with
    | ['-', '-'] => if rest.isEmpty then [] else [.stray]
    | '-' :: '-' :: name =>
      let r := Reading.ofLongName name
      r.elements ++ elementsFrom r.awaiting rest
    | '-' :: c :: cs =>
      let r := Reading.ofLetters (c :: cs)
      r.elements ++ elementsFrom r.awaiting rest
    | _ => [.stray]

def elements : List String → List Element := elementsFrom none

end LobbyPlacement.CommandLine
