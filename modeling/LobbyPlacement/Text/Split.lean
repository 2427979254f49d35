import LobbyPlacement.Text.Blank

/-!
# Splitting and replacing

Lists written with commas, the two halves of a text around a separator, and the replacement of a
fixed word.
-/

namespace LobbyPlacement.Text

/-- The pieces between separators; a text without one is a single piece. -/
def pieces (separator : Char) : List Char → List (List Char)
  | [] => [[]]
  | c :: rest =>
    if c = separator then [] :: pieces separator rest
    else match pieces separator rest with
      | [] => [[c]]
      | piece :: more => (c :: piece) :: more

def cutFirst? (separator : Char) : List Char → Option (List Char × List Char)
  | [] => none
  | c :: rest =>
    if c = separator then some ([], rest)
    else (cutFirst? separator rest).map fun (before, after) => (c :: before, after)

def cutLast? (separator : Char) (cs : List Char) : Option (List Char × List Char) :=
  (cutFirst? separator cs.reverse).map fun (after, before) => (before.reverse, after.reverse)

def afterWord? : (word : List Char) → List Char → Option (List Char)
  | [], cs => some cs
  | _ :: _, [] => none
  | w :: word, c :: cs => if w = c then afterWord? word cs else none

/-- `count` more characters belong to an occurrence already replaced. -/
def replaceFrom (word new : List Char) : (count : Nat) → List Char → List Char
  | _, [] => []
  | count + 1, _ :: rest => replaceFrom word new count rest
  | 0, c :: rest =>
    if (afterWord? word (c :: rest)).isSome && !word.isEmpty then
      new ++ replaceFrom word new (word.length - 1) rest
    else c :: replaceFrom word new 0 rest

/-- Every occurrence of a word, found from the left without overlap, replaced. -/
def replaceWord (word new : List Char) (cs : List Char) : List Char :=
  replaceFrom word new 0 cs

/-- The entries of a comma-separated list: trimmed, blank ones dropped. -/
def entries (cs : List Char) : List (List Char) :=
  ((pieces ',' cs).map trim).filter fun entry => !entry.isEmpty

def splitEntries (s : String) : List String :=
  (entries s.toList).map String.ofList

end LobbyPlacement.Text
