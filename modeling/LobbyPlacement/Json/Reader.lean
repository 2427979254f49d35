import LobbyPlacement.Json.Number
import LobbyPlacement.Text.Quoted

/-!
# Reading JSON text

Reading what is expected: a text, or the items of a list or record one by one. Anything else is a
fault in the words of `unexpectedValue`. Values that nobody asked for are skipped, to any depth.
-/

namespace LobbyPlacement.JsonText

open Text (Rest Shorter)
open Text.Utf8 (Bytes)

def invalidType (found expected : String) : JsonCause :=
  .unexpected ("invalid type: " ++ found ++ ", expected " ++ expected)

/-- A value of another type at the front of the input. Scalars count as read; lists and records do
not. -/
def unexpectedValue (expected : String) (input : Bytes) : JsonFault :=
  match input with
  | [] => .within .valueExpected []
  | b :: rest =>
    let literal (tail : Bytes) (found : String) : JsonFault :=
      match word tail rest with
      | .error fault => fault
      | .ok after => .before (invalidType found expected) after.1
    let number (isNegative : Bool) (digits : Bytes) : JsonFault :=
      match JsonNumber.read isNegative digits with
      | .error fault => fault
      | .ok (n, after) => .before (invalidType n.text expected) after
    if b = 110 then literal nullTail "null"
    else if b = 116 then literal trueTail "boolean `true`"
    else if b = 102 then literal falseTail "boolean `false`"
    else if b = 45 then number true rest
    else if isDigit b then number false input
    else if b = 34 then
      match text rest with
      | .error fault => fault
      | .ok (s, after) => .before (invalidType ("string " ++ Text.quoted s) expected) after.1
    else if b = 91 then .before (invalidType "sequence" expected) input
    else if b = 123 then .before (invalidType "map" expected) input
    else .within .valueExpected input

/-! ### Skipped values -/

/-- A value without parts, behind its first byte; `none` if it is none. -/
def skipScalar? (b : UInt8) (rest : Bytes) : Option (Except JsonFault (Rest rest)) :=
  if b = 110 then some (word nullTail rest)
  else if b = 116 then some (word trueTail rest)
  else if b = 102 then some (word falseTail rest)
  else if b = 45 then some ((skipNumber rest).map fun r => ⟨r.1, Nat.le_of_lt r.2⟩)
  else if isDigit b then
    some ((skipNumber (b :: rest)).map fun r => ⟨r.1, Nat.le_of_lt_succ r.2⟩)
  else if b = 34 then some ((skipText rest).map fun r => ⟨r.1, Nat.le_of_lt r.2⟩)
  else none

/-- Where a skipped value stands: in front of a value, of an item of the innermost open list or
record, or behind an item, where a comma may follow. -/
inductive Skipping
  | value
  | item
  | behind (comma : Bool)

def Skipping.rank : Skipping → Nat
  | value => 0
  | item => 1
  | behind _ => 2

/-- Skips a value inside open lists and records (`true` for a record), innermost first. -/
def skipFrom (stage : Skipping) (outer : List Bool) (input : Bytes) :
    Except JsonFault (Rest input) :=
  have bound := length_skipBlanks_le input
  match stage with
  | .value =>
    match front : skipBlanks input with
    | [] => .error (.within .endInValue [])
    | b :: rest =>
      have : rest.length < input.length := by
        rw [front] at bound
        exact bound
      match skipScalar? b rest with
      | some (.error fault) => .error fault
      | some (.ok after) =>
        have := after.2
        (skipFrom (.behind true) outer after.1).map fun r => ⟨r.1, by have := r.2; omega⟩
      | none =>
        if b = 91 || b = 123 then
          (skipFrom (.behind false) ((b = 123) :: outer) rest).map fun r =>
            ⟨r.1, by have := r.2; omega⟩
        else .error (.within .valueExpected (b :: rest))
  | .item =>
    if outer.headD false then
      match front : skipBlanks input with
      | [] => .error (.within .endInRecord [])
      | b :: rest =>
        have : rest.length < input.length := by
          rw [front] at bound
          exact bound
        if b ≠ 34 then .error (.within .keyExpected (b :: rest))
        else match skipText rest with
          | .error fault => .error fault
          | .ok name =>
            have := name.2
            have := length_skipBlanks_le name.1
            match behind : skipBlanks name.1 with
            | [] => .error (.within .endInRecord [])
            | c :: value =>
              have : value.length < input.length := by
                simp only [behind, List.length_cons] at *
                omega
              if c ≠ 58 then .error (.within .colonExpected (c :: value))
              else (skipFrom .value outer value).map fun r => ⟨r.1, by have := r.2; omega⟩
    else skipFrom .value outer input
  | .behind comma =>
    match outer with
    | [] => .ok ⟨input, Nat.le_refl _⟩
    | isRecord :: others =>
      match front : skipBlanks input with
      | [] => .error (.within (if isRecord then .endInRecord else .endInList) [])
      | b :: rest =>
        have : rest.length < input.length := by
          rw [front] at bound
          exact bound
        if b = 44 && comma then
          (skipFrom .item (isRecord :: others) rest).map fun r => ⟨r.1, by have := r.2; omega⟩
        else if b = (if isRecord then 125 else 93) then
          (skipFrom (.behind true) others rest).map fun r => ⟨r.1, by have := r.2; omega⟩
        else if comma then
          .error (.within (if isRecord then .recordGoesOn else .listGoesOn) (b :: rest))
        else
          (skipFrom .item (isRecord :: others) (b :: rest)).map fun r =>
            ⟨r.1, by have := r.2; simp only [List.length_cons] at *; omega⟩
termination_by 3 * input.length + stage.rank
decreasing_by all_goals simp only [Skipping.rank, List.length_cons]; omega

/-! ### Expected values -/

def expectText (input : Bytes) : Except JsonFault (String × Shorter input) :=
  have bound := length_skipBlanks_le input
  match front : skipBlanks input with
  | [] => .error (.within .endInValue [])
  | b :: rest =>
    if b = 34 then
      (text rest).map fun (s, r) =>
        (s, ⟨r.1, by
          have := r.2
          rw [front] at bound
          simp only [List.length_cons] at bound
          omega⟩)
    else .error (unexpectedValue "a string" (b :: rest))

/-- The front of the next item of a list, or `none` in front of its closing bracket. -/
def nextItem (first : Bool) (input : Bytes) : Except JsonFault (Option (Rest input)) :=
  have bound := length_skipBlanks_le input
  match front : skipBlanks input with
  | [] => .error (.within .endInList [])
  | b :: rest =>
    if b = 93 then .ok none
    else if first then .ok (some ⟨b :: rest, by rw [front] at bound; exact bound⟩)
    else if b = 44 then
      have inner := length_skipBlanks_le rest
      match second : skipBlanks rest with
      | [] => .error (.within .endInValue [])
      | c :: more =>
        if c = 93 then .error (.within .trailingComma (c :: more))
        else .ok (some ⟨c :: more, by
          rw [front] at bound
          rw [second] at inner
          simp only [List.length_cons] at bound inner ⊢
          omega⟩)
    else .error (.within .listGoesOn (b :: rest))

/-- The input behind the opening quote of the next name of a record, or `none` in front of its
closing brace. -/
def nextName (first : Bool) (input : Bytes) : Except JsonFault (Option (Shorter input)) :=
  have bound := length_skipBlanks_le input
  match front : skipBlanks input with
  | [] => .error (.within .endInRecord [])
  | b :: rest =>
    if b = 125 then .ok none
    else if first then
      if b = 34 then
        .ok (some ⟨rest, by rw [front] at bound; exact bound⟩)
      else .error (.within .keyExpected (b :: rest))
    else if b = 44 then
      have inner := length_skipBlanks_le rest
      match second : skipBlanks rest with
      | [] => .error (.within .endInValue [])
      | c :: more =>
        if c = 34 then .ok (some ⟨more, by
          rw [front] at bound
          rw [second] at inner
          simp only [List.length_cons] at bound inner
          omega⟩)
        else .error (.within (if c = 125 then .trailingComma else .keyExpected) (c :: more))
    else .error (.within .recordGoesOn (b :: rest))

def afterColon (input : Bytes) : Except JsonFault (Shorter input) :=
  have bound := length_skipBlanks_le input
  match front : skipBlanks input with
  | [] => .error (.within .endInRecord [])
  | b :: rest =>
    if b = 58 then .ok ⟨rest, by rw [front] at bound; exact bound⟩
    else .error (.within .colonExpected (b :: rest))

def closeList (input : Bytes) : Except JsonFault Bytes :=
  match skipBlanks input with
  | [] => .error (.within .endInList [])
  | b :: rest =>
    if b = 93 then .ok rest
    else if b = 44 then
      match skipBlanks rest with
      | c :: more =>
        .error (.within (if c = 93 then .trailingComma else .trailingCharacters) (c :: more))
      | [] => .error (.within .trailingCharacters [])
    else .error (.within .trailingCharacters (b :: rest))

def closeRecord (input : Bytes) : Except JsonFault Bytes :=
  match skipBlanks input with
  | [] => .error (.within .endInRecord [])
  | b :: rest =>
    if b = 125 then .ok rest
    else .error (.within (if b = 44 then .trailingComma else .trailingCharacters) (b :: rest))

/-- The place that a fault of a whole list or record is told at: behind its end, if that is next. -/
def behindList (input : Bytes) : Bytes :=
  match skipBlanks input with
  | b :: rest => if b = 93 then rest else if b = 44 then skipBlanks rest else b :: rest
  | [] => []

def behindRecord (input : Bytes) : Bytes :=
  match skipBlanks input with
  | b :: rest => if b = 125 then rest else b :: rest
  | [] => []

def expectEnd (input : Bytes) : Except JsonFault Unit :=
  match skipBlanks input with
  | [] => .ok ()
  | rest => .error (.within .trailingCharacters rest)

def textsFrom (first : Bool) (input : Bytes) : Except JsonFault (List String × Bytes) :=
  match nextItem first input with
  | .error fault => .error fault
  | .ok none => .ok ([], input)
  | .ok (some item) =>
    match expectText item.1 with
    | .error fault => .error fault
    | .ok (s, after) =>
      have := item.2
      have := after.2
      (textsFrom false after.1).map fun (more, rest) => (s :: more, rest)
termination_by input.length
decreasing_by omega

def expectTexts (input : Bytes) : Except JsonFault (List String × Bytes) :=
  match skipBlanks input with
  | [] => .error (.within .endInValue [])
  | b :: rest =>
    if b = 91 then
      match textsFrom true rest with
      | .error fault => .error fault
      | .ok (texts, after) => (closeList after).map fun rest => (texts, rest)
    else .error (unexpectedValue "a sequence" (b :: rest))

end LobbyPlacement.JsonText
