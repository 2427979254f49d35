import LobbyPlacement.Text.Glob

/-!
# The lone star

Which keys the pattern `*` matches. `accepts_star` says that these are all keys but the starred
ones: a star at the front of the key uses up the star of the pattern, and nothing is left for what
follows it.
-/

namespace LobbyPlacement.Text.Glob

/-- A star with more behind it. -/
def isStarred (key : String) : Bool :=
  match key.toList with
  | '*' :: _ :: _ => true
  | _ => false

/-- Behind the last star of a pattern that ends there, every key matches. -/
theorem afterStar_nil (key start : List Char) (shorter : ([] : List Char).length ≤ [].length)
    (within : key.length ≤ start.length) : afterStar [] key [] start shorter within = true := by
  induction start generalizing key with
  | nil =>
    obtain rfl : key = [] := List.length_eq_zero_iff.mp (Nat.le_zero.mp within)
    rw [afterStar]
    rfl
  | cons c rest ih =>
    cases key with
    | nil =>
      rw [afterStar]
      rfl
    | cons d more =>
      rw [afterStar]
      exact ih rest (Nat.le_refl _)

theorem matchesFrom_star_cons {c : Char} (rest : List Char) (plain : c ≠ '*') :
    matchesFrom ['*'] (c :: rest) = true := by
  have unfit : fits '*' c = false := by simp [fits, Ne.symm plain]
  rw [matchesFrom, unfit]
  exact afterStar_nil _ _ _ _

/-- The pattern `*` matches every key that is not starred. -/
theorem accepts_star (key : String) : accepts "*" key = !isStarred key := by
  show matchesFrom ['*'] key.toList = _
  unfold isStarred
  split
  next rest starred =>
    rw [starred]
    rfl
  next unstarred =>
    cases chars : key.toList with
    | nil => rfl
    | cons c rest =>
      by_cases star : c = '*'
      · -- A lone star in the key is matched as that character.
        subst star
        cases rest with
        | nil => rfl
        | cons d more => exact (unstarred d more chars).elim
      · exact matchesFrom_star_cons rest star

end LobbyPlacement.Text.Glob
