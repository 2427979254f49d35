import LobbyPlacement.Fault
import LobbyPlacement.Text.Utf8

/-!
# Publishers

What carries announcements out. An attempt takes time on a clock of milliseconds: it settles after
some time, crashes after some time, or is pending for as long as it is watched.
-/

namespace LobbyPlacement

inductive Attempt
  | settled (after : Nat) (result : Except Fault Unit)
  | pending
  | crashed (after : Nat)

class Publisher (π : Type) where
  /-- Publishes a payload on a channel, starting now and given up at the limit. -/
  publish : π → (now limit : Nat) → (channel : String) → Text.Utf8.Bytes → π × Attempt
  /-- The transport looks usable. -/
  isHealthy : π → Bool

instance {α β : Type} [Publisher α] [Publisher β] : Publisher (α ⊕ β) where
  publish
    | .inl a, now, limit, channel, payload =>
      let (a, attempt) := Publisher.publish a now limit channel payload
      (.inl a, attempt)
    | .inr b, now, limit, channel, payload =>
      let (b, attempt) := Publisher.publish b now limit channel payload
      (.inr b, attempt)
  isHealthy
    | .inl a => Publisher.isHealthy a
    | .inr b => Publisher.isHealthy b

end LobbyPlacement
