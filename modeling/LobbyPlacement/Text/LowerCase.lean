import LobbyPlacement.Text.CaseTable

/-!
# Lower case

Full lower-casing of text. Two letters depend on more than the simple map: a capital I with a dot
becomes two characters, and a capital sigma is written in its final form at the end of a word.
-/

namespace LobbyPlacement.Text

/-- The simple lower case of a letter; any other character is its own. -/
def lowerChar (c : Char) : Char :=
  match lowerRuns.find? fun (first, last, stride, _) =>
      first ≤ c.toNat && c.toNat ≤ last && (c.toNat - first) % stride = 0 with
  | some (first, _, _, lowered) => Char.ofNat (c.toNat - first + lowered)
  | none => c

/-- The nearest character that is not ignorable has a case. -/
def meetsCased (cs : List Char) : Bool :=
  match cs.dropWhile (inRanges caseIgnorableRanges) with
  | c :: _ => inRanges casedRanges c
  | [] => false

/-- Lower-casing with the characters already passed, latest first. -/
def lowerFrom (passed : List Char) : List Char → List Char
  | [] => []
  | c :: rest =>
    (if c = 'Σ' then [if meetsCased passed && !meetsCased rest then 'ς' else 'σ']
     else if c = 'İ' then ['i', '\u0307']
     else [lowerChar c]) ++ lowerFrom (c :: passed) rest

def lower (s : String) : String := String.ofList (lowerFrom [] s.toList)

end LobbyPlacement.Text
