import LobbyPlacement.Text.Utf8

/-!
# Labelled series

A series has one value per child, in the order in which the children were first touched. A child is
kept under the 64-bit FNV-1a hash of its label values, written one after the other, and is found by
that word alone: labels that share it share the child, which is shown under the labels that came
first. What was never touched counts as zero. `value_update` says what one update does.
-/

namespace LobbyPlacement

/-- What the children of a series are told apart by, as label values. -/
class Labels (κ : Type) where
  values : κ → List String

namespace Labels

def absorb (hash : UInt64) (byte : UInt8) : UInt64 := (hash ^^^ byte.toUInt64) * 0x100000001b3

def hashBytes (bytes : Text.Utf8.Bytes) : UInt64 := bytes.foldl absorb 0xcbf29ce484222325

/-- The word under which a child is kept. Nothing stands between the values. -/
def hash {κ : Type} [Labels κ] (key : κ) : UInt64 :=
  hashBytes ((values key).flatMap Text.Utf8.encode)

end Labels

instance : Labels String := ⟨fun value => [value]⟩

/-- No other of these values has the hash of this one. -/
def Labels.Alone (value : String) (others : List String) : Prop :=
  ∀ other ∈ others, hash other = hash value → other = value

instance (value : String) (others : List String) : Decidable (Labels.Alone value others) :=
  inferInstanceAs
    (Decidable (∀ other ∈ others, Labels.hash other = Labels.hash value → other = value))

abbrev Series (κ : Type) := List (κ × Int)

namespace Series

variable {κ : Type} [Labels κ]

def value (s : Series κ) (key : κ) : Int :=
  ((s.find? fun entry => Labels.hash entry.1 == Labels.hash key).map Prod.snd).getD 0

def update (key : κ) (change : Int → Int) : Series κ → Series κ
  | [] => [(key, change 0)]
  | entry :: rest =>
    if Labels.hash entry.1 = Labels.hash key then (entry.1, change entry.2) :: rest
    else entry :: update key change rest

def bump (key : κ) (s : Series κ) : Series κ := s.update key (· + 1)

def set (key : κ) (v : Int) (s : Series κ) : Series κ := s.update key fun _ => v

theorem value_update (key other : κ) (change : Int → Int) (s : Series κ) :
    value (s.update key change) other =
      if Labels.hash other = Labels.hash key then change (s.value key) else s.value other := by
  induction s with
  | nil => by_cases same : Labels.hash other = Labels.hash key <;> grind [update, value]
  | cons entry rest ih =>
    by_cases same : Labels.hash other = Labels.hash key <;>
      by_cases here : Labels.hash entry.1 = Labels.hash key <;>
      grind [update, value]

end Series

end LobbyPlacement
