import LobbyPlacement.Toml.Value

/-!
# TOML tables

How the pairs and headers of a document make one tree of tables. A table has one place of origin: a
header of its own, the path of a deeper header, or a dotted key; from that follows what may still be
added to it. Nothing is defined twice.
-/

namespace LobbyPlacement.Toml

inductive Origin
  | header
  | implied
  | dotted
deriving DecidableEq, Repr

inductive Node
  | leaf (d : Document)
  | table (origin : Origin) (entries : List (String × Node))
  | tables (items : List (List (String × Node)))

abbrev Entries := List (String × Node)

namespace Entries

def replace (name : String) (node : Node) : Entries → Entries
  | [] => []
  | entry :: rest =>
    if entry.1 = name then (name, node) :: rest else entry :: replace name node rest

def remove (name : String) (entries : Entries) : Entries := entries.filter fun e => e.1 ≠ name

/-- The entry of a name changed, or made from nothing behind the others. -/
def alter (name : String) (change : Option Node → Option Node) (entries : Entries) :
    Option Entries :=
  match entries.lookup name with
  | some node => (change (some node)).map fun node => replace name node entries
  | none => (change none).map fun node => entries ++ [(name, node)]

/-- The last of several tables changed. -/
def alterLast (change : Entries → Option Entries) (items : List Entries) : Option (List Entries) :=
  match items.getLast? with
  | some last => (change last).map fun last => items.dropLast ++ [last]
  | none => none

/-- Adds a pair. The tables on the way of a dotted key must not have headers of their own, and the
one that takes the pair must come from dotted keys alone. -/
def addPair : Key → Document → Entries → Option Entries
  | [], _, _ => none
  | [name], d, entries =>
    entries.alter name fun found => match found with
      | none => some (.leaf d)
      | some _ => none
  | name :: part :: parts, d, entries =>
    entries.alter name fun found => match found with
      | none => (addPair (part :: parts) d []).map (.table .dotted)
      | some (.table .dotted inner) => (addPair (part :: parts) d inner).map (.table .dotted)
      | some (.table .implied inner) =>
        if parts.isEmpty then none
        else (addPair (part :: parts) d inner).map (.table .implied)
      | some (.tables items) =>
        if parts.isEmpty then none
        else (alterLast (addPair (part :: parts) d) items).map .tables
      | some (.table .header _) => none
      | some (.leaf _) => none

/-- Changes the entries of the table that a header stands in, made on the way if need be. -/
def within : (path : Key) → (Entries → Option Entries) → Entries → Option Entries
  | [], change, entries => change entries
  | name :: path, change, entries =>
    entries.alter name fun found => match found with
      | none => (within path change []).map (.table .implied)
      | some (.table origin inner) => (within path change inner).map (.table origin)
      | some (.tables items) => (alterLast (within path change) items).map .tables
      | some (.leaf _) => none

/-- What a deeper header has already put where a header stands; none if something else is there. -/
def impliedAt? : Key → Entries → Option Entries
  | [], _ => none
  | [name], entries =>
    match entries.lookup name with
    | none => some []
    | some (.table .implied inner) => some inner
    | some _ => none
  | name :: part :: parts, entries =>
    match entries.lookup name with
    | none => some []
    | some (.table _ inner) => impliedAt? (part :: parts) inner
    | some (.tables items) => impliedAt? (part :: parts) (items.getLast?.getD [])
    | some (.leaf _) => none

/-- Takes away what `impliedAt?` found. -/
def removeAt (path : Key) (entries : Entries) : Option Entries :=
  within path.dropLast (fun inner => some (inner.remove (path.getLastD ""))) entries

/-- Puts a finished table among the entries where its header stands. -/
def attach (entries : Entries) (path : Key) (isList : Bool) (table : Entries) : Option Entries :=
  within path.dropLast
    (fun inner => inner.alter (path.getLastD "") fun found => match found with
      | none => some (if isList then .tables [table] else .table .header table)
      | some (.tables items) => if isList then some (.tables (items ++ [table])) else none
      | some _ => none)
    entries

end Entries

mutual

def Node.document : Node → Document
  | .leaf d => d
  | .table _ entries => .table (Entries.documents entries)
  | .tables items => .list (Entries.lists items)

def Entries.documents : Entries → List (String × Document)
  | [] => []
  | (name, node) :: rest => (name, node.document) :: Entries.documents rest

def Entries.lists : List Entries → List Document
  | [] => []
  | entries :: rest => .table (Entries.documents entries) :: Entries.lists rest

end

mutual

/-- A value with its tables put together; none if a key is defined twice. -/
def Value.document? : Value → Option Document
  | .plain d => some d
  | .list items => (Value.documents? items).map .list
  | .pairs entries => (Value.gather? [] entries).map fun es => .table (Entries.documents es)

def Value.documents? : List Value → Option (List Document)
  | [] => some []
  | v :: rest => do return (← v.document?) :: (← Value.documents? rest)

def Value.gather? (found : Entries) : List (Key × Value) → Option Entries
  | [] => some found
  | (key, v) :: rest =>
    match v.document? with
    | none => none
    | some d =>
      match Entries.addPair key d found with
      | none => none
      | some found => Value.gather? found rest

end

end LobbyPlacement.Toml
