import LobbyPlacement.Number.Floating
import LobbyPlacement.Text.Numeral
import LobbyPlacement.Text.Quoted

/-!
# Documents

Values as a configuration document holds them, and how records with defaults are read from them.
The two dialects write the same values; they differ in how a floating-point number is told, in what
may stand for a choice, and in whether a list may be longer than the record read from it.
-/

namespace LobbyPlacement

inductive Document
  | null
  | flag (b : Bool)
  | integer (i : Int)
  | floating (x : Number.Floating)
  | text (s : String)
  | date
  | list (items : List Document)
  | table (entries : List (String × Document))

inductive Dialect
  | toml
  | json
deriving DecidableEq, Repr

inductive DocumentFault
  | malformed
  | invalidType (found expected : String)
  | invalidValue (found expected : String)
  | invalidLength (length : Nat) (expected : String)
  | unknownField (name : String) (known : List String)
  | unknownVariant (name : String) (known : List String)
deriving DecidableEq, Repr

namespace DocumentFault

def tick (name : String) : String := "`" ++ name ++ "`"

/-- The names that would have been right. -/
def oneOf : List String → String
  | [] => "nothing"
  | [a] => tick a
  | [a, b] => tick a ++ " or " ++ tick b
  | names => "one of " ++ ", ".intercalate (names.map tick)

/-- The sentence on a fault; a text that is no document at all has none. -/
def sentence? : DocumentFault → Option String
  | malformed => none
  | invalidType found expected =>
    some ("invalid type: " ++ found ++ ", expected " ++ expected)
  | invalidValue found expected =>
    some ("invalid value: " ++ found ++ ", expected " ++ expected)
  | invalidLength length expected =>
    some ("invalid length " ++ Text.decimal length ++ ", expected " ++ expected)
  | unknownField name known =>
    some ("unknown field " ++ tick name ++ ", expected " ++ oneOf known)
  | unknownVariant name known =>
    some ("unknown variant " ++ tick name ++ ", expected " ++ oneOf known)

def sentence (f : DocumentFault) : String := f.sentence?.getD ""

end DocumentFault

namespace Document

def integerText (i : Int) : String :=
  "integer " ++ DocumentFault.tick
    (if i < 0 then "-" ++ Text.decimal i.natAbs else Text.decimal i.natAbs)

def floatingText (dialect : Dialect) (x : Number.Floating) : String :=
  "floating point " ++ DocumentFault.tick (x.text (match dialect with
    | .toml => .pointed
    | .json => .scientific))

/-- What a value is, in the words of a fault. A date is read as a table. -/
def kind (dialect : Dialect) : Document → String
  | null => "null"
  | flag b => if b then "boolean `true`" else "boolean `false`"
  | integer i => integerText i
  | floating x => floatingText dialect x
  | text s => "string " ++ Text.quoted s
  | date => "map"
  | list _ => "sequence"
  | table _ => "map"

abbrev Reading (α : Type) := Except DocumentFault α

def readText (dialect : Dialect) : Document → Reading String
  | text s => .ok s
  | d => .error (.invalidType (d.kind dialect) "a string")

/-- A natural number up to a largest value, whose width is named in the fault. -/
def readNat (largest : Nat) (width : String) (dialect : Dialect) : Document → Reading Nat
  | integer i =>
    if 0 ≤ i && i.natAbs ≤ largest then .ok i.natAbs
    else .error (.invalidValue (integerText i) width)
  | d => .error (.invalidType (d.kind dialect) width)

def readTexts (dialect : Dialect) : Document → Reading (List String)
  | list items => items.mapM (readText dialect)
  | d => .error (.invalidType (d.kind dialect) "a sequence")

def choose {α : Type} (choices : List (String × α)) (name : String) : Reading α :=
  match choices.lookup name with
  | some a => .ok a
  | none => .error (.unknownVariant name (choices.map (·.1)))

def isEmpty : Document → Bool
  | list items => items.isEmpty
  | table entries => entries.isEmpty
  | _ => false

/-- One of several named choices: its name, or a table of the name alone with nothing in it. -/
def readChoice {α : Type} (choices : List (String × α)) (dialect : Dialect) : Document → Reading α
  | text s => choose choices s
  | table [(name, inner)] => do
    let chosen ← choose choices name
    match dialect, inner with
    | .json, null => .ok chosen
    | .json, d => .error (.invalidType (d.kind dialect) "unit")
    | .toml, d => if d.isEmpty then .ok chosen else .error .malformed
  | d => .error (match dialect, d with
    | .toml, _ => .malformed
    | .json, table _ => .invalidValue "map" "map with a single key"
    | .json, _ => .invalidType (d.kind dialect) "string or map")

end Document

structure Field (σ : Type) where
  name : String
  read : Dialect → Document → σ → Except DocumentFault σ

/-- A record of named parts: what it is called, its parts in order, and whether other names are
refused. -/
structure Shape (σ : Type) where
  title : String
  fields : List (Field σ)
  closed : Bool

namespace Shape

variable {σ : Type}

def field? (shape : Shape σ) (name : String) : Option (Field σ) :=
  shape.fields.find? fun f => f.name = name

/-- Parts are taken over in the order in which the table holds them. -/
def readEntries (shape : Shape σ) (dialect : Dialect) :
    List (String × Document) → σ → Except DocumentFault σ
  | [], s => .ok s
  | (name, d) :: rest, s =>
    match shape.field? name with
    | some f => (f.read dialect d s).bind (readEntries shape dialect rest)
    | none =>
      if shape.closed then .error (.unknownField name (shape.fields.map (·.name)))
      else readEntries shape dialect rest s

/-- A list gives the parts in their order; later parts may be missing. -/
def readItems (dialect : Dialect) (length : Nat) :
    List (Field σ) → List Document → σ → Except DocumentFault σ
  | _, [], s => .ok s
  | [], _ :: _, s =>
    match dialect with
    | .toml => .ok s
    | .json => .error (.invalidLength length "fewer elements in array")
  | f :: fields, d :: rest, s => (f.read dialect d s).bind (readItems dialect length fields rest)

/-- Reads a record over the given one, which stands for everything not mentioned. -/
def read (shape : Shape σ) (dialect : Dialect) (s : σ) : Document → Except DocumentFault σ
  | .table entries => shape.readEntries dialect entries s
  | .date => if shape.closed then .error .malformed else .ok s
  | .list items => readItems dialect items.length shape.fields items s
  | d => .error (.invalidType (d.kind dialect) ("struct " ++ shape.title))

end Shape

end LobbyPlacement
