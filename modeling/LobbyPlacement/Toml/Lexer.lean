import LobbyPlacement.Text.Rest

/-!
# The small pieces of a TOML document

Blanks, line ends, comments and keys. A comment, like everything else, holds no control characters
but tabs.
-/

namespace LobbyPlacement.Toml

open Text (Rest Shorter skip run?)

/-- A reading of something at the front of an input, with what is left. -/
abbrev Lexed (α : Type) (input : List Char) := Option (α × Shorter input)

def isBlank (c : Char) : Bool := c = ' ' || c = '\t'

def isDigit (c : Char) : Bool := '0' ≤ c && c ≤ '9'

def isHexDigit (c : Char) : Bool :=
  isDigit c || ('a' ≤ c && c ≤ 'f') || ('A' ≤ c && c ≤ 'F')

/-- Characters that stand for themselves in comments and texts: tabs, and everything from the blank
on that is no control. -/
def isPlain (c : Char) : Bool := c = '\t' || (' ' ≤ c && c ≠ '\x7f')

def inKey (c : Char) : Bool :=
  isDigit c || ('a' ≤ c && c ≤ 'z') || ('A' ≤ c && c ≤ 'Z') || c = '-' || c = '_'

def blanks (input : List Char) : Rest input := skip isBlank input

def lineEnd? (input : List Char) : Option (Shorter input) :=
  match input with
  | '\n' :: rest => some ⟨rest, Nat.lt_succ_self _⟩
  | '\r' :: '\n' :: rest => some ⟨rest, by simp only [List.length_cons]; omega⟩
  | _ => none

def mark? (c : Char) (input : List Char) : Option (Shorter input) :=
  match input with
  | d :: rest => if d = c then some ⟨rest, Nat.lt_succ_self _⟩ else none
  | [] => none

def comment (input : List Char) : Rest input :=
  match input with
  | [] => .all []
  | c :: rest =>
    if c = '#' then
      ⟨(skip isPlain rest).1, Nat.le_trans (skip isPlain rest).2 (Nat.le_succ _)⟩
    else .all (c :: rest)

def filler (input : List Char) : Rest input :=
  let start := blanks input
  let after := start.of (comment start.1)
  match lineEnd? after.1 with
  | some line =>
    have := after.2
    have := line.2
    let more := filler line.1
    ⟨more.1, by have := more.2; omega⟩
  | none => after
termination_by input.length
decreasing_by all_goals omega

/-- The end of an expression: blanks, a comment and the end of the line or of the input. -/
def expressionEnd? (input : List Char) : Option (Rest input) :=
  let start := blanks input
  let after := start.of (comment start.1)
  match lineEnd? after.1 with
  | some line => some (after.of ⟨line.1, Nat.le_of_lt line.2⟩)
  | none => if after.1.isEmpty then some after else none

end LobbyPlacement.Toml
