import LobbyPlacement.Text.Numeral
import LobbyPlacement.Text.Split

/-!
# Host addresses

The numeric addresses a server can listen at: four decimal parts, or eight hexadecimal groups in
brackets, the last two of which may be written as four decimal parts. One run of groups that are
zero may be left out.
-/

namespace LobbyPlacement

inductive HostAddress
  | four (parts : List Nat)
  | six (groups : List Nat)
deriving DecidableEq, Repr

namespace HostAddress

open Text

def part? (cs : List Char) : Option Nat :=
  match cs with
  | [] => none
  | '0' :: _ :: _ => none
  | _ => (digitsValue? 0 cs).filter fun n => n ≤ 255

def four? (cs : List Char) : Option (List Nat) := do
  let parts ← (pieces '.' cs).mapM part?
  if parts.length = 4 then some parts else none

def hexValue? (c : Char) : Option Nat :=
  if '0' ≤ c && c ≤ '9' then some (c.toNat - 48)
  else if 'a' ≤ c && c ≤ 'f' then some (c.toNat - 87)
  else if 'A' ≤ c && c ≤ 'F' then some (c.toNat - 55)
  else none

def group? (cs : List Char) : Option Nat :=
  if cs.isEmpty || 4 < cs.length then none
  else cs.foldlM (fun value c => (hexValue? c).map fun d => value * 16 + d) 0

/-- Groups with colons between them; four decimal parts may stand for the last two. -/
def groups? (mayEndInParts : Bool) (cs : List Char) : Option (List Nat) :=
  if cs.isEmpty then some []
  else
    let written := pieces ':' cs
    match written.mapM group? with
    | some groups => some groups
    | none => do
      if !mayEndInParts then none
      let groups ← written.dropLast.mapM group?
      match four? (written.getLastD []) with
      | some [a, b, c, d] => some (groups ++ [a * 256 + b, c * 256 + d])
      | _ => none

/-- What stands before and behind the first pair of colons. -/
def cutAtPair? : List Char → Option (List Char × List Char)
  | ':' :: ':' :: rest => some ([], rest)
  | c :: rest => (cutAtPair? rest).map fun (before, behind) => (c :: before, behind)
  | [] => none

def six? (cs : List Char) : Option (List Nat) :=
  match cutAtPair? cs with
  | none => (groups? true cs).filter fun groups => groups.length = 8
  | some (before, behind) => do
    let front ← groups? false before
    let back ← groups? true behind
    let missing := 8 - (front.length + back.length)
    if missing = 0 then none
    else some (front ++ List.replicate missing 0 ++ back)

def ofText? (host : String) : Option HostAddress :=
  match host.toList with
  | '[' :: rest =>
    if rest.getLast? = some ']' then (six? rest.dropLast).map six else none
  | cs => (four? cs).map four

/-! ### The shortest form -/

def fourText (parts : List Nat) : String := ".".intercalate (parts.map decimal)

def groupText (n : Nat) : String := String.ofList (Nat.toDigits 16 n)

def groupsText (groups : List Nat) : String := ":".intercalate (groups.map groupText)

def zeros (groups : List Nat) : Nat := (groups.takeWhile (· == 0)).length

/-- The place of the first longest run of zeros; a run of one does not count. -/
def longestZeros (groups : List Nat) : Nat × Nat :=
  (List.range groups.length).foldl
    (fun best i => if best.2 < zeros (groups.drop i) then (i, zeros (groups.drop i)) else best)
    (0, 1)

def sixText (groups : List Nat) : String :=
  match groups with
  | [0, 0, 0, 0, 0, 65535, a, b] =>
    "::ffff:" ++ fourText [a / 256, a % 256, b / 256, b % 256]
  | _ =>
    let (place, length) := longestZeros groups
    if length ≤ 1 then groupsText groups
    else groupsText (groups.take place) ++ "::" ++ groupsText (groups.drop (place + length))

def text : HostAddress → String
  | four parts => fourText parts
  | six groups => "[" ++ sixText groups ++ "]"

end HostAddress

end LobbyPlacement
