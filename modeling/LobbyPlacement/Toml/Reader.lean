import LobbyPlacement.Toml.Tree

/-!
# Reading TOML documents

A document is a sequence of expressions, each on its line: pairs, headers of tables and headers of
lists of tables. A header starts a table that ends at the next header.
-/

namespace LobbyPlacement.Toml

open LobbyPlacement.Text (Rest Shorter)

inductive Expression
  | nothing
  | pair (key : Key) (value : Value)
  | header (path : Key)
  | listHeader (path : Key)

def header? (input : List Char) : Option (Expression × Shorter input) :=
  match mark? '[' input with
  | some second => do
    let (path, a) ← key? second.1
    let b ← mark? ']' a.1
    let c ← mark? ']' b.1
    return (.listHeader path, second.of (a.of (b.of c)))
  | none => do
    let (path, a) ← key? input
    let b ← mark? ']' a.1
    return (.header path, a.of b)

def expression? (input : List Char) : Option (Expression × Shorter input) :=
  match input with
  | [] => none
  | c :: rest =>
    if c = '#' || c = '\n' || c = '\r' then
      match expressionEnd? (c :: rest) with
      | none => none
      | some r =>
        if shorter : r.1.length < (c :: rest).length then some (.nothing, ⟨r.1, shorter⟩) else none
    else if c = '[' then do
      let (e, a) ← header? rest
      let b ← expressionEnd? a.1
      return (e, ⟨(a.rest b).1, Nat.lt_trans (a.rest b).2 (Nat.lt_succ_self _)⟩)
    else do
      let ((key, v), a) ← pair value (c :: rest)
      let b ← expressionEnd? a.1
      return (.pair key v, a.rest b)

def expressions? (input : List Char) : Option (List Expression) :=
  let start := blanks input
  if start.1.isEmpty then some []
  else match expression? start.1 with
    | none => none
    | some (e, after) =>
      have := start.2
      have := after.2
      (expressions? after.1).map (e :: ·)
termination_by input.length
decreasing_by omega

/-- The tables finished so far, and the one under construction with its place. -/
structure Build where
  finished : Entries
  current : Entries
  path : Key
  isList : Bool

namespace Build

def start : Build := ⟨[], [], [], false⟩

def finish (b : Build) : Option Entries :=
  if b.path.isEmpty then some b.current
  else b.finished.attach b.path b.isList b.current

/-- Keys have fewer parts than the depth of values. -/
def fits (key : Key) : Bool := key.length < maxDepth

def add (b : Build) : Expression → Option Build
  | .nothing => some b
  | .pair key v => do
    if !fits key then none
    let d ← v.document?
    return { b with current := ← b.current.addPair key d }
  | .header path => do
    if !fits path then none
    let finished ← b.finish
    let implied ← finished.impliedAt? path
    return ⟨← finished.removeAt path, implied, path, false⟩
  | .listHeader path => do
    if !fits path then none
    return ⟨← b.finish, [], path, true⟩

end Build

def withoutByteOrderMark : List Char → List Char
  | '\ufeff' :: rest => rest
  | cs => cs

def read (s : String) : Except DocumentFault Document :=
  let built := do
    let es ← expressions? (withoutByteOrderMark s.toList)
    let b ← es.foldlM Build.add Build.start
    b.finish
  match built with
  | some entries => .ok (.table entries.documents)
  | none => .error .malformed

end LobbyPlacement.Toml
