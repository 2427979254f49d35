import LobbyPlacement.Toml.Scalar

/-!
# TOML values

Texts, scalars, lists over any number of lines and tables on one line. Lists and tables may stand
inside each other up to a fixed depth. Pairs of a table are kept with their dotted keys; `Tree`
puts them together.
-/

namespace LobbyPlacement.Toml

open LobbyPlacement.Text (Rest Shorter)

abbrev Key := List String

/-- A value whose tables are still lists of pairs. -/
inductive Value
  | plain (d : Document)
  | list (items : List Value)
  | pairs (entries : List (Key × Value))

abbrev Reader (α : Type) := (input : List Char) → Lexed α input

/-- The items of a list behind its opening bracket. -/
def items {α : Type} (item : Reader α) (input : List Char) : Option (List α × Shorter input) :=
  let start := filler input
  match mark? ']' start.1 with
  | some closed => some ([], start.shorter closed)
  | none =>
    match item start.1 with
    | none => none
    | some (a, after) =>
      let behind := (start.shorter after).rest (filler after.1)
      match mark? ',' behind.1 with
      | some comma =>
        have := behind.2
        have := comma.2
        (items item comma.1).map fun (more, r) => (a :: more, (behind.of comma).of r)
      | none => (mark? ']' behind.1).map fun closed => ([a], behind.of closed)
termination_by input.length
decreasing_by all_goals omega

def pair {α : Type} (value : Reader α) (input : List Char) :
    Option ((Key × α) × Shorter input) := do
  let (key, a) ← key? input
  let b ← mark? '=' a.1
  let c := blanks b.1
  let (v, d) ← value c.1
  return ((key, v), a.of (b.of (c.shorter d)))

/-- The pairs of a table on one line, behind a pair that came before or its opening brace. -/
def pairs {α : Type} (value : Reader α) (input : List Char) :
    Option (List (Key × α) × Shorter input) :=
  match pair value input with
  | none => none
  | some (p, after) =>
    let behind := after.rest (blanks after.1)
    match mark? ',' behind.1 with
    | some comma =>
      have := behind.2
      have := comma.2
      (pairs value comma.1).map fun (more, r) =>
        (p :: more, ⟨r.1, by have := r.2; omega⟩)
    | none => (mark? '}' behind.1).map fun closed => ([p], behind.of closed)
termination_by input.length
decreasing_by all_goals omega

def inlineTable {α : Type} (value : Reader α) (input : List Char) :
    Option (List (Key × α) × Shorter input) :=
  let start := blanks input
  match mark? '}' start.1 with
  | some closed => some ([], start.shorter closed)
  | none => pairs value input

/-- Lists and tables inside each other no deeper than this. -/
def maxDepth : Nat := 80

/-- A value with at most so many levels of lists and tables. -/
def valueWithin : (depth : Nat) → Reader Value
  | depth, input =>
    match input with
    | [] => none
    | c :: rest =>
      if c = '"' || c = '\'' then
        (text? (c :: rest)).map fun (cs, r) => (.plain (.text (String.ofList cs)), r)
      else if c = '[' || c = '{' then
        match depth with
        | 0 => none
        | deeper + 1 =>
          if c = '[' then
            (items (valueWithin deeper) rest).map fun (vs, r) =>
              (.list vs, ⟨r.1, Nat.lt_trans r.2 (Nat.lt_succ_self _)⟩)
          else
            (inlineTable (valueWithin deeper) rest).map fun (ps, r) =>
              (.pairs ps, ⟨r.1, Nat.lt_trans r.2 (Nat.lt_succ_self _)⟩)
      else (scalar (c :: rest)).map fun (d, r) => (.plain d, r)

def value : Reader Value := valueWithin (maxDepth - 1)

end LobbyPlacement.Toml
