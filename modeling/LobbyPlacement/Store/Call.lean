import LobbyPlacement.Fault

/-!
# Store calls

What the store of placements can be asked, and what each question is answered with. A listing is a
sequence of keys that may be interrupted by a fault.
-/

namespace LobbyPlacement

inductive StoreCall
  | get (key : String)
  | put (key value : String)
  | putIfAbsent (key value : String)
  | scan (pattern : String)
  | ping
deriving DecidableEq, Repr

namespace StoreCall

/-- The answer to a call; a conditional write tells whether it was made. -/
abbrev Answer : StoreCall → Type
  | get _ => Option String
  | put _ _ => Unit
  | putIfAbsent _ _ => Bool
  | scan _ => List (Except Fault String)
  | ping => Unit

/-- A call is answered or fails as a whole. -/
abbrev Reply (c : StoreCall) : Type := Except Fault c.Answer

end StoreCall

/-- Anything that answers store calls one at a time. -/
class Store (σ : Type) where
  perform : σ → (c : StoreCall) → σ × c.Reply

end LobbyPlacement
