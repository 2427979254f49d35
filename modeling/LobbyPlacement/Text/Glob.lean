/-!
# Key patterns

Matching a key against a pattern in which `?` stands for one character and `*` for any run of
characters. Only the latest star is remembered. A star in the pattern that meets a star in the key
is taken as that character.
-/

namespace LobbyPlacement.Text.Glob

def onlyStars (pattern : List Char) : Bool := pattern.all (· == '*')

/-- The pattern's first character stands for the key's first. -/
def fits (p c : Char) : Bool := p == '?' || p == c

theorem tail_shorter {start : List Char} {n : Nat} (within : n + 1 ≤ start.length) :
    start.tail.length < start.length := by
  cases start with
  | nil => exact absurd within (Nat.not_succ_le_zero n)
  | cons _ rest => exact Nat.lt_succ_self rest.length

/-- Matching after a star: `retry` is the pattern behind that star and `from` the part of the key
where it was tried last. On a mismatch it is tried one character further on. -/
def afterStar (pattern key retry start : List Char)
    (shorter : pattern.length ≤ retry.length) (within : key.length ≤ start.length) : Bool :=
  match pattern, key with
  | p, [] => onlyStars p
  | p :: ps, c :: cs =>
    if fits p c then
      afterStar ps cs retry start (Nat.le_of_succ_le shorter) (Nat.le_of_succ_le within)
    else if p = '*' then
      afterStar ps (c :: cs) ps (c :: cs) (Nat.le_refl _) (Nat.le_refl _)
    else
      afterStar retry start.tail retry start.tail (Nat.le_refl _) (Nat.le_refl _)
  | [], _ :: _ => afterStar retry start.tail retry start.tail (Nat.le_refl _) (Nat.le_refl _)
termination_by (retry.length, start.length, key.length)
decreasing_by
  · exact .right _ (.right _ (Nat.lt_succ_self cs.length))
  · exact .left _ _ shorter
  · exact .right _ (.left _ _ (tail_shorter within))
  · exact .right _ (.left _ _ (tail_shorter within))

/-- Matching before any star. -/
def matchesFrom : (pattern key : List Char) → Bool
  | pattern, [] => onlyStars pattern
  | [], _ :: _ => false
  | p :: ps, c :: cs =>
    if fits p c then matchesFrom ps cs
    else if p = '*' then afterStar ps (c :: cs) ps (c :: cs) (Nat.le_refl _) (Nat.le_refl _)
    else false

def accepts (pattern key : String) : Bool := matchesFrom pattern.toList key.toList

end LobbyPlacement.Text.Glob
