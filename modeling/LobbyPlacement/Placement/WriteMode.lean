import LobbyPlacement.Fault
import LobbyPlacement.Text.LowerCase

/-!
# Write modes

A new placement is either written only where there is none yet, or over whatever is there.
-/

namespace LobbyPlacement

inductive WriteMode
  | createIfAbsent
  | lastWriteWins
deriving DecidableEq, Repr

namespace WriteMode

def text : WriteMode → String
  | createIfAbsent => "create_if_absent"
  | lastWriteWins => "last_write_wins"

/-- Read without regard to case, a hyphen for an underscore allowed. -/
def ofText (s : String) : Except Fault WriteMode :=
  let name := (Text.lower s).map fun c => if c = '-' then '_' else c
  if name = createIfAbsent.text then .ok createIfAbsent
  else if name = lastWriteWins.text then .ok lastWriteWins
  else .error (.configuration ("Unknown write mode: " ++ name))

end WriteMode

end LobbyPlacement
