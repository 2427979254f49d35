import LobbyPlacement.Number.Shortest

/-!
# Floating-point values

Doubles with their sign, infinities and the value that is no number, as configuration documents
may hold them.
-/

namespace LobbyPlacement.Number

inductive Floating
  | finite (isNegative : Bool) (x : Binary64)
  | infinite (isNegative : Bool)
  | nan

def signText (isNegative : Bool) : String := if isNegative then "-" else ""

def Floating.text (layout : Layout) : Floating → String
  | finite isNegative x => signText isNegative ++ layout.text x
  | infinite isNegative => signText isNegative ++ "inf"
  | nan => "NaN"

end LobbyPlacement.Number
