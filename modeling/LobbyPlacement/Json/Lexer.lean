import LobbyPlacement.Json.Fault
import LobbyPlacement.Number.Binary64
import LobbyPlacement.Text.Rest

/-!
# The pieces of JSON text

Words, numbers and texts at the front of a byte string. Every reader returns what follows and never
more bytes than it was given. Values that nobody asked for are skipped by readers of their own,
which know no limits on numbers and do not decode texts.
-/

namespace LobbyPlacement.JsonText

open Text (Rest Shorter length_dropWhile_le)
open Text.Utf8 (Bytes)

def isBlank (b : UInt8) : Bool := b = 32 || b = 10 || b = 9 || b = 13

def isDigit (b : UInt8) : Bool := 48 ≤ b && b ≤ 57

def skipBlanks (input : Bytes) : Bytes := input.dropWhile isBlank

theorem length_skipBlanks_le (input : Bytes) : (skipBlanks input).length ≤ input.length :=
  length_dropWhile_le _ _

/-- The rest of a word whose first letter was read. -/
def word : (letters : Bytes) → (input : Bytes) → Except JsonFault (Rest input)
  | [], input => .ok ⟨input, Nat.le_refl _⟩
  | _ :: _, [] => .error (.before .endInValue [])
  | letter :: letters, b :: rest =>
    if b = letter then
      (word letters rest).map fun r => ⟨r.1, Nat.le_trans r.2 (Nat.le_succ _)⟩
    else .error (.before .wordExpected rest)

def nullTail : Bytes := [117, 108, 108]
def trueTail : Bytes := [114, 117, 101]
def falseTail : Bytes := [97, 108, 115, 101]

/-! ### Numbers that are skipped -/

def skipDigits (input : Bytes) : Rest input := ⟨input.dropWhile isDigit, length_dropWhile_le _ _⟩

def skipExponent (input : Bytes) : Except JsonFault (Rest input) :=
  let signless : Rest input := match input with
    | [] => ⟨[], Nat.le_refl _⟩
    | b :: rest => if b = 43 || b = 45 then ⟨rest, Nat.le_succ _⟩ else ⟨b :: rest, Nat.le_refl _⟩
  match signless with
  | ⟨[], _⟩ => .error (.before .number [])
  | ⟨b :: rest, bound⟩ =>
    if isDigit b then
      .ok ⟨(skipDigits rest).1,
        Nat.le_trans (skipDigits rest).2 (Nat.le_trans (Nat.le_succ _) bound)⟩
    else .error (.before .number rest)

def skipFraction (input : Bytes) : Except JsonFault (Rest input) :=
  match input with
  | [] => .ok ⟨[], Nat.le_refl _⟩
  | b :: rest =>
    if b = 46 then
      match skipDigits rest with
      | ⟨after, bound⟩ =>
        if after.length = rest.length then .error (.within .number rest)
        else match after with
          | [] => .ok ⟨[], Nat.zero_le _⟩
          | e :: tail =>
            if e = 101 || e = 69 then
              (skipExponent tail).map fun r =>
                ⟨r.1, Nat.le_trans r.2 (Nat.le_trans (Nat.le_succ _)
                  (Nat.le_trans bound (Nat.le_succ _)))⟩
            else .ok ⟨e :: tail, Nat.le_trans bound (Nat.le_succ _)⟩
    else if b = 101 || b = 69 then
      (skipExponent rest).map fun r => ⟨r.1, Nat.le_trans r.2 (Nat.le_succ _)⟩
    else .ok ⟨b :: rest, Nat.le_refl _⟩

def skipNumber (input : Bytes) : Except JsonFault (Shorter input) :=
  match input with
  | [] => .error (.before .number [])
  | b :: rest =>
    if b = 48 then
      match rest with
      | d :: tail =>
        if isDigit d then .error (.within .number (d :: tail))
        else (skipFraction (d :: tail)).map fun r => ⟨r.1, Nat.lt_succ_of_le r.2⟩
      | [] => .ok ⟨[], Nat.zero_lt_succ _⟩
    else if isDigit b then
      (skipFraction (skipDigits rest).1).map fun r =>
        ⟨r.1, Nat.lt_succ_of_le (Nat.le_trans r.2 (skipDigits rest).2)⟩
    else .error (.before .number rest)

/-! ### Texts -/

def hexValue? (b : UInt8) : Option Nat :=
  if 48 ≤ b && b ≤ 57 then some (b.toNat - 48)
  else if 97 ≤ b && b ≤ 102 then some (b.toNat - 87)
  else if 65 ≤ b && b ≤ 70 then some (b.toNat - 55)
  else none

def fourHex (input : Bytes) : Except JsonFault (Nat × Rest input) :=
  match input with
  | a :: b :: c :: d :: rest =>
    match hexValue? a, hexValue? b, hexValue? c, hexValue? d with
    | some a, some b, some c, some d =>
      .ok (((a * 16 + b) * 16 + c) * 16 + d, ⟨rest, by simp only [List.length_cons]; omega⟩)
    | _, _, _, _ => .error (.before .escape rest)
  | _ => .error (.before .endInText [])

def shortEscape? (b : UInt8) : Option UInt8 :=
  if b = 34 || b = 92 || b = 47 then some b
  else if b = 98 then some 8
  else if b = 102 then some 12
  else if b = 110 then some 10
  else if b = 114 then some 13
  else if b = 116 then some 9
  else none

def isLeading (n : Nat) : Bool := 0xd800 ≤ n && n ≤ 0xdbff
def isTrailing (n : Nat) : Bool := 0xdc00 ≤ n && n ≤ 0xdfff

/-- The second half of a pair of surrogates: a backslash, a `u` and four digits. -/
def trailingHalf (leading : Nat) (input : Bytes) : Except JsonFault (Char × Rest input) :=
  match input with
  | [] => .error (.before .endInText [])
  | b :: rest =>
    if b ≠ 92 then .error (.before .escapeEnds rest)
    else match rest with
      | [] => .error (.before .endInText [])
      | u :: digits =>
        if u ≠ 117 then .error (.before .escapeEnds digits)
        else match fourHex digits with
          | .error fault => .error fault
          | .ok (n, ⟨after, bound⟩) =>
            if isTrailing n then
              .ok (Char.ofNat (0x10000 + (leading - 0xd800) * 0x400 + (n - 0xdc00)),
                ⟨after, Nat.le_trans bound (Nat.le_trans (Nat.le_succ _) (Nat.le_succ _))⟩)
            else .error (.before .loneSurrogate after)

/-- The character of a numeric escape, behind its `u`. -/
def numericEscape (input : Bytes) : Except JsonFault (Char × Rest input) :=
  match fourHex input with
  | .error fault => .error fault
  | .ok (n, ⟨rest, bound⟩) =>
    if isTrailing n then .error (.before .loneSurrogate rest)
    else if isLeading n then
      (trailingHalf n rest).map fun (c, r) => (c, ⟨r.1, Nat.le_trans r.2 bound⟩)
    else .ok (Char.ofNat n, ⟨rest, bound⟩)

/-- The bytes of an escape, behind its backslash. -/
def escaped (input : Bytes) : Except JsonFault (Bytes × Rest input) :=
  match input with
  | [] => .error (.before .endInText [])
  | b :: rest =>
    if b = 117 then
      (numericEscape rest).map fun (c, r) =>
        (String.utf8EncodeChar c, ⟨r.1, Nat.le_trans r.2 (Nat.le_succ _)⟩)
    else match shortEscape? b with
      | some byte => .ok ([byte], ⟨rest, Nat.le_succ _⟩)
      | none => .error (.before .escape rest)

def textBytes (input : Bytes) : Except JsonFault (Bytes × Shorter input) :=
  match input with
  | [] => .error (.before .endInText [])
  | b :: rest =>
    if b = 34 then .ok ([], ⟨rest, Nat.lt_succ_self _⟩)
    else if b = 92 then
      match escaped rest with
      | .error fault => .error fault
      | .ok (bytes, ⟨after, bound⟩) =>
        match textBytes after with
        | .error fault => .error fault
        | .ok (more, ⟨last, shorter⟩) =>
          .ok (bytes ++ more,
            ⟨last, Nat.lt_of_lt_of_le shorter (Nat.le_trans bound (Nat.le_succ _))⟩)
    else if b < 32 then .error (.before .control rest)
    else
      match textBytes rest with
      | .error fault => .error fault
      | .ok (more, ⟨last, shorter⟩) =>
        .ok (b :: more, ⟨last, Nat.lt_of_lt_of_le shorter (Nat.le_succ _)⟩)
termination_by input.length
decreasing_by
  · exact Nat.lt_succ_of_le bound
  · exact Nat.lt_succ_self _

/-- A text behind its opening quote. Bytes that are no UTF-8 are found once the text is complete,
and told at the first of them. -/
def text (input : Bytes) : Except JsonFault (String × Shorter input) :=
  match textBytes input with
  | .error fault => .error fault
  | .ok (bytes, rest) =>
    match Text.Utf8.decode bytes with
    | .ok s => .ok (s, rest)
    | .error _ =>
      match Text.Utf8.decode (input.take (input.length - rest.1.length - 1)) with
      | .error valid => .error (.within .codePoint (input.drop valid))
      | .ok _ => .error (.before .codePoint rest.1)

def skipText (input : Bytes) : Except JsonFault (Shorter input) :=
  match input with
  | [] => .error (.before .endInText [])
  | b :: rest =>
    if b = 34 then .ok ⟨rest, Nat.lt_succ_self _⟩
    else if b = 92 then
      match rest with
      | [] => .error (.before .endInText [])
      | e :: tail =>
        let after : Except JsonFault (Rest tail) :=
          if e = 117 then (fourHex tail).map (·.2)
          else if (shortEscape? e).isSome then .ok ⟨tail, Nat.le_refl _⟩
          else .error (.before .escape tail)
        match after with
        | .error fault => .error fault
        | .ok ⟨last, bound⟩ =>
          (skipText last).map fun r =>
            ⟨r.1, Nat.lt_of_lt_of_le r.2
              (Nat.le_trans bound (Nat.le_trans (Nat.le_succ _) (Nat.le_succ _)))⟩
    else if b < 32 then .error (.before .control (b :: rest))
    else (skipText rest).map fun r => ⟨r.1, Nat.lt_of_lt_of_le r.2 (Nat.le_succ _)⟩
termination_by input.length
decreasing_by
  · simp only [List.length_cons]
    omega
  · exact Nat.lt_succ_self _

end LobbyPlacement.JsonText
