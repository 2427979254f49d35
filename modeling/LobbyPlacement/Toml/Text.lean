import LobbyPlacement.Toml.Lexer

/-!
# TOML texts

Texts in double quotes, with escapes, and in single quotes, without; each also over several lines
between three quotes, where a line end right behind the opening is dropped and up to two quotes may
stand anywhere, also right before the closing ones.
-/

namespace LobbyPlacement.Toml

open LobbyPlacement.Text (Rest Shorter skip)

def hexValue (c : Char) : Nat :=
  if isDigit c then c.toNat - 48
  else if 'a' ≤ c && c ≤ 'f' then c.toNat - 87
  else c.toNat - 55

def scalar? (digits : Nat) (input : List Char) : Option (Char × Rest input) :=
  let ds := input.take digits
  let value := ds.foldl (fun v c => v * 16 + hexValue c) 0
  if ds.length = digits && ds.all isHexDigit &&
      (value < 0xd800 || (0xdfff < value && value < 0x110000)) then
    some (Char.ofNat value, Text.drop digits input)
  else none

def escape? (input : List Char) : Lexed Char input :=
  match input with
  | [] => none
  | c :: rest =>
    let short (d : Char) : Lexed Char (c :: rest) := some (d, .tail c rest)
    let long (digits : Nat) : Lexed Char (c :: rest) :=
      (scalar? digits rest).map fun (d, r) => (d, (Shorter.tail c rest).rest r)
    if c = 'b' then short '\x08'
    else if c = 't' then short '\t'
    else if c = 'n' then short '\n'
    else if c = 'f' then short '\x0c'
    else if c = 'r' then short '\r'
    else if c = '"' then short '"'
    else if c = '\\' then short '\\'
    else if c = 'u' then long 4
    else if c = 'U' then long 8
    else none

/-- A text on one line behind its opening quote. -/
def lineText (quote : Char) (escapes : Bool) (input : List Char) : Lexed (List Char) input :=
  match input with
  | [] => none
  | c :: rest =>
    if c = quote then some ([], ⟨rest, Nat.lt_succ_self _⟩)
    else if c = '\\' && escapes then
      match escape? rest with
      | none => none
      | some (d, after) =>
        have := after.2
        (lineText quote escapes after.1).map fun (ds, r) =>
          (d :: ds, ⟨r.1, by have := r.2; simp only [List.length_cons]; omega⟩)
    else if isPlain c then
      (lineText quote escapes rest).map fun (ds, r) =>
        (c :: ds, ⟨r.1, Nat.lt_trans r.2 (Nat.lt_succ_self _)⟩)
    else none
termination_by input.length
decreasing_by all_goals simp only [List.length_cons]; omega

def blankLines (input : List Char) : Rest input :=
  let start := blanks input
  match lineEnd? start.1 with
  | some line =>
    have := start.2
    have := line.2
    ((start.shorter line).rest (blankLines line.1)).loose
  | none => start
termination_by input.length
decreasing_by all_goals omega

/-- A backslash at the end of a line takes the line end and all blanks behind it away. -/
def foldedLine? (input : List Char) : Option (Shorter input) :=
  let start := blanks input
  (lineEnd? start.1).map fun line => (start.shorter line).rest (blankLines line.1)

def runLength (c : Char) (input : List Char) : Nat := (input.takeWhile (· = c)).length

/-- A text over several lines, behind its opening quotes. Three to five quotes close it; those
before the last three belong to it. -/
def blockText (quote : Char) (escapes : Bool) (input : List Char) : Lexed (List Char) input :=
  match input with
  | [] => none
  | c :: rest =>
    let quotes := runLength quote (c :: rest)
    if 3 ≤ quotes then
      if quotes ≤ 5 then
        some (List.replicate (quotes - 3) quote,
          ⟨(c :: rest).drop (quotes - 3 + 3), by
            rw [List.length_drop]; simp only [List.length_cons]; omega⟩)
      else none
    else if c = '\\' && escapes then
      match escape? rest with
      | some (d, after) =>
        have := after.2
        (blockText quote escapes after.1).map fun (ds, r) =>
          (d :: ds, ⟨r.1, by have := r.2; simp only [List.length_cons]; omega⟩)
      | none =>
        match foldedLine? rest with
        | none => none
        | some after =>
          have := after.2
          (blockText quote escapes after.1).map fun (ds, r) =>
            (ds, ⟨r.1, by have := r.2; simp only [List.length_cons]; omega⟩)
    else
      match lineEnd? (c :: rest) with
      | some after =>
        have := after.2
        (blockText quote escapes after.1).map fun (ds, r) =>
          ('\n' :: ds, ⟨r.1, Nat.lt_trans r.2 this⟩)
      | none =>
        if isPlain c then
          (blockText quote escapes rest).map fun (ds, r) =>
            (c :: ds, ⟨r.1, Nat.lt_trans r.2 (Nat.lt_succ_self _)⟩)
        else none
termination_by input.length
decreasing_by all_goals simp only [List.length_cons] at *; omega

def afterLineEnd (input : List Char) : Rest input :=
  match lineEnd? input with
  | some line => ⟨line.1, Nat.le_of_lt line.2⟩
  | none => .all input

def quotedLine? (input : List Char) : Lexed (List Char) input :=
  match input with
  | [] => none
  | c :: rest =>
    if c = '"' || c = '\'' then
      (lineText c (c = '"') rest).map fun (ds, r) =>
        (ds, ⟨r.1, Nat.lt_trans r.2 (Nat.lt_succ_self _)⟩)
    else none

def text? (input : List Char) : Lexed (List Char) input :=
  match input with
  | c :: d :: e :: rest =>
    if (c = '"' || c = '\'') && d = c && e = c then
      (blockText c (c = '"') (afterLineEnd rest).1).map fun (ds, r) =>
        (ds, ⟨r.1, by
          have := r.2
          have := (afterLineEnd rest).2
          simp only [List.length_cons]
          omega⟩)
    else quotedLine? (c :: d :: e :: rest)
  | short => quotedLine? short

def simpleKey? (input : List Char) : Lexed (List Char) input :=
  match input with
  | c :: rest =>
    if c = '"' || c = '\'' then quotedLine? (c :: rest)
    else LobbyPlacement.Text.run? inKey (c :: rest)
  | [] => none

/-- A key, dotted or not, with blanks around its parts. -/
def key? (input : List Char) : Option (List String × Shorter input) :=
  let start := blanks input
  match simpleKey? start.1 with
  | none => none
  | some (name, after) =>
    let behind := (start.shorter after).rest (blanks after.1)
    match mark? '.' behind.1 with
    | none => some ([String.ofList name], behind)
    | some dot =>
      have := behind.2
      have := dot.2
      (key? dot.1).map fun (names, r) =>
        (String.ofList name :: names, ⟨r.1, by have := r.2; omega⟩)
termination_by input.length
decreasing_by all_goals omega

end LobbyPlacement.Toml
