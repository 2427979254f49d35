/-!
# What is left of an input

Readers return the part of their input behind what they read. The types say that it is no longer
than the input, or strictly shorter, so that loops over readers end.
-/

namespace LobbyPlacement.Text

abbrev Rest {α : Type} (input : List α) := { rest : List α // rest.length ≤ input.length }

abbrev Shorter {α : Type} (input : List α) := { rest : List α // rest.length < input.length }

theorem length_dropWhile_le {α : Type} (p : α → Bool) (xs : List α) :
    (xs.dropWhile p).length ≤ xs.length := by
  induction xs with
  | nil => simp
  | cons x rest ih =>
    simp only [List.dropWhile_cons]
    split
    · simp only [List.length_cons]
      omega
    · exact Nat.le_refl _

theorem length_drop_le {α : Type} (n : Nat) (xs : List α) : (xs.drop n).length ≤ xs.length := by
  rw [List.length_drop]
  omega

theorem length_lt_cons {α : Type} (x : α) (xs : List α) : xs.length < (x :: xs).length :=
  Nat.lt_succ_self _

def drop {α : Type} (n : Nat) (input : List α) : Rest input :=
  ⟨input.drop n, length_drop_le n input⟩

def skip {α : Type} (p : α → Bool) (input : List α) : Rest input :=
  ⟨input.dropWhile p, length_dropWhile_le p input⟩

/-- At least one such element and all that follow it. -/
def run? {α : Type} (p : α → Bool) (input : List α) : Option (List α × Shorter input) :=
  match input with
  | [] => none
  | x :: rest =>
    if p x then
      some (x :: rest.takeWhile p,
        ⟨rest.dropWhile p, Nat.lt_succ_of_le (length_dropWhile_le p rest)⟩)
    else none

namespace Rest

variable {α : Type} {input : List α}

def all (input : List α) : Rest input := ⟨input, Nat.le_refl _⟩

/-- What is left of a part is left of the whole. -/
def of (outer : Rest input) (inner : Rest outer.1) : Rest input :=
  ⟨inner.1, Nat.le_trans inner.2 outer.2⟩

def shorter (outer : Rest input) (inner : Shorter outer.1) : Shorter input :=
  ⟨inner.1, Nat.lt_of_lt_of_le inner.2 outer.2⟩

end Rest

namespace Shorter

variable {α : Type} {input : List α}

def tail (x : α) (input : List α) : Shorter (x :: input) := ⟨input, length_lt_cons x input⟩

theorem le (r : Shorter input) : r.1.length ≤ input.length := Nat.le_of_lt r.2

def loose (r : Shorter input) : Rest input := ⟨r.1, r.le⟩

def rest (outer : Shorter input) (inner : Rest outer.1) : Shorter input :=
  ⟨inner.1, Nat.lt_of_le_of_lt inner.2 outer.2⟩

def of (outer : Shorter input) (inner : Shorter outer.1) : Shorter input :=
  ⟨inner.1, Nat.lt_trans inner.2 outer.2⟩

end Shorter

end LobbyPlacement.Text
