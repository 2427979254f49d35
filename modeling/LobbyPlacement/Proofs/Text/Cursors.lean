import LobbyPlacement.Proofs.Text.Language

/-!
# Matching by cursors

A match as a loop over two places, one in the pattern and one in the key, which goes back to the
latest star when it can go no further. `Cursors.ends_matchesFrom` says that the loop comes to an end
and what it answers; `last_star_suffices` adds what the answer means.
-/

namespace LobbyPlacement.Text.Glob

/-- Where a match stands: a place in the pattern and one in the key, and the latest star, if any,
with the place in the key from which the rest was tried last. -/
structure Cursors where
  pattern : Nat
  key : Nat
  star : Option (Nat × Nat)

namespace Cursors

def start : Cursors := ⟨0, 0, none⟩

/-- The latest star takes in one more character; without a star the match has failed. -/
def back (c : Cursors) : Cursors ⊕ Bool :=
  match c.star with
  | some (star, tried) => .inl ⟨star + 1, tried + 1, some (star, tried + 1)⟩
  | none => .inr false

def step (pattern key : List Char) (c : Cursors) : Cursors ⊕ Bool :=
  match key[c.key]?, pattern[c.pattern]? with
  | none, _ => .inr (onlyStars (pattern.drop c.pattern))
  | some _, none => c.back
  | some k, some p =>
    if fits p k then .inl ⟨c.pattern + 1, c.key + 1, c.star⟩
    else if p = '*' then .inl ⟨c.pattern + 1, c.key, some (c.pattern, c.key)⟩
    else c.back

/-- The answer, if it is found in so many steps. -/
def run (pattern key : List Char) : Nat → Cursors → Option Bool
  | 0, _ => none
  | steps + 1, c =>
    match c.step pattern key with
    | .inl next => run pattern key steps next
    | .inr answer => some answer

/-- The loop comes to an end from here, with this answer. -/
def Ends (pattern key : List Char) (c : Cursors) (answer : Bool) : Prop :=
  ∃ steps, run pattern key steps c = some answer

theorem ends_of_answer {pattern key : List Char} {c : Cursors} {answer : Bool}
    (found : c.step pattern key = .inr answer) : c.Ends pattern key answer :=
  ⟨1, by simp only [run, found]⟩

theorem ends_of_next {pattern key : List Char} {c next : Cursors} {answer : Bool}
    (goes : c.step pattern key = .inl next) (ends : next.Ends pattern key answer) :
    c.Ends pattern key answer := by
  obtain ⟨steps, ended⟩ := ends
  exact ⟨steps + 1, by simp only [run, goes, ended]⟩

theorem of_drop_eq_cons {cs rest : List Char} {place : Nat} {c : Char}
    (behind : cs.drop place = c :: rest) : cs[place]? = some c ∧ cs.drop (place + 1) = rest := by
  constructor
  · rw [← List.head?_drop, behind, List.head?_cons]
  · rw [← List.tail_drop, behind, List.tail_cons]

section

variable {pattern key : List Char} {c : Cursors}

theorem step_end (ended : key.drop c.key = []) :
    c.step pattern key = .inr (onlyStars (pattern.drop c.pattern)) := by
  have none_left : key[c.key]? = none := by
    rw [← List.head?_drop, ended, List.head?_nil]
  simp only [step, none_left]

theorem step_short {k : Char} {ks : List Char} (keyLeft : key.drop c.key = k :: ks)
    (ended : pattern.drop c.pattern = []) : c.step pattern key = c.back := by
  have none_left : pattern[c.pattern]? = none := by
    rw [← List.head?_drop, ended, List.head?_nil]
  simp only [step, (of_drop_eq_cons keyLeft).1, none_left]

theorem step_both {k p : Char} {ks ps : List Char} (keyLeft : key.drop c.key = k :: ks)
    (patternLeft : pattern.drop c.pattern = p :: ps) :
    c.step pattern key =
      if fits p k then .inl ⟨c.pattern + 1, c.key + 1, c.star⟩
      else if p = '*' then .inl ⟨c.pattern + 1, c.key, some (c.pattern, c.key)⟩
      else c.back := by
  simp only [step, (of_drop_eq_cons keyLeft).1, (of_drop_eq_cons patternLeft).1]

end

theorem ends_of_back {pattern key : List Char} {c : Cursors} {star tried : Nat} {answer : Bool}
    (met : c.star = some (star, tried)) (goesBack : c.step pattern key = c.back)
    (ends : (⟨star + 1, tried + 1, some (star, tried + 1)⟩ : Cursors).Ends pattern key answer) :
    c.Ends pattern key answer := by
  refine ends_of_next ?_ ends
  rw [goesBack, back, met]

/-- Behind a star, the cursors answer as `afterStar` does for what is left from their places on. -/
theorem ends_afterStar {pattern key ps ks retry since : List Char}
    {shorter : ps.length ≤ retry.length} {within : ks.length ≤ since.length} {c : Cursors}
    {star tried : Nat} (met : c.star = some (star, tried))
    (patternLeft : pattern.drop c.pattern = ps) (keyLeft : key.drop c.key = ks)
    (behind : pattern.drop (star + 1) = retry) (lastTried : key.drop tried = since) :
    c.Ends pattern key (afterStar ps ks retry since shorter within) := by
  fun_induction afterStar ps ks retry since shorter within generalizing c star tried with
  | case1 =>
    rw [← patternLeft]
    exact ends_of_answer (step_end keyLeft)
  | case2 _ _ p ps k ks _ _ fit _ _ ih =>
    have both := step_both keyLeft patternLeft
    rw [if_pos fit] at both
    exact ends_of_next both (ih met (of_drop_eq_cons patternLeft).2 (of_drop_eq_cons keyLeft).2
      behind lastTried)
  | case3 _ _ ps k ks _ _ _ unfit _ ih =>
    have both := step_both keyLeft patternLeft
    rw [if_neg unfit, if_pos rfl] at both
    have rest := (of_drop_eq_cons patternLeft).2
    exact ends_of_next both (ih rfl rest keyLeft rest keyLeft)
  | case4 _ since p ps k ks _ _ unfit plain _ _ ih =>
    have both := step_both keyLeft patternLeft
    rw [if_neg unfit, if_neg plain] at both
    have later : key.drop (tried + 1) = since.tail := by rw [← List.tail_drop, lastTried]
    exact ends_of_back met both (ih rfl behind later behind later)
  | case5 _ since k ks _ _ _ _ ih =>
    have later : key.drop (tried + 1) = since.tail := by rw [← List.tail_drop, lastTried]
    exact ends_of_back met (step_short keyLeft patternLeft) (ih rfl behind later behind later)

theorem ends_matchesFrom {pattern key ps ks : List Char} {c : Cursors} (unmet : c.star = none)
    (patternLeft : pattern.drop c.pattern = ps) (keyLeft : key.drop c.key = ks) :
    c.Ends pattern key (matchesFrom ps ks) := by
  have fails : c.back = .inr false := by rw [back, unmet]
  fun_induction matchesFrom ps ks generalizing c with
  | case1 =>
    rw [← patternLeft]
    exact ends_of_answer (step_end keyLeft)
  | case2 k ks => exact ends_of_answer ((step_short keyLeft patternLeft).trans fails)
  | case3 p ps k ks fit ih =>
    have both := step_both keyLeft patternLeft
    rw [if_pos fit] at both
    have patternRest := (of_drop_eq_cons patternLeft).2
    have keyRest := (of_drop_eq_cons keyLeft).2
    refine ends_of_next both (ih unmet patternRest keyRest ?_)
    rw [back, unmet]
  | case4 ps k ks unfit =>
    have both := step_both keyLeft patternLeft
    rw [if_neg unfit, if_pos rfl] at both
    have rest := (of_drop_eq_cons patternLeft).2
    exact ends_of_next both (ends_afterStar rfl rest keyLeft rest keyLeft)
  | case5 p ps k ks unfit plain =>
    have both := step_both keyLeft patternLeft
    rw [if_neg unfit, if_neg plain] at both
    exact ends_of_answer (both.trans fails)

end Cursors

/-- The loop over the cursors comes to an end for every pattern and every key, with the answer that
is given. A key that is accepted is in the language of the pattern; and one without a star is
accepted exactly if it is. -/
theorem last_star_suffices (pattern key : String) :
    (∃ steps, Cursors.run pattern.toList key.toList steps .start = some (accepts pattern key)) ∧
    (accepts pattern key = true → key.toList ∈ language pattern.toList) ∧
    ('*' ∉ key.toList →
      (accepts pattern key = true ↔ key.toList ∈ language pattern.toList)) :=
  ⟨Cursors.ends_matchesFrom rfl rfl rfl, mem_of_matchesFrom,
    fun unstarred => ⟨mem_of_matchesFrom, matchesFrom_of_mem unstarred⟩⟩

/-- The first `b` of the key is not the one that the pattern means, so its star is tried again. -/
theorem later_try_matches :
    '*' ∉ "abcbd".toList ∧ accepts "*b?" "abcbd" = true ∧
      "abcbd".toList ∈ language "*b?".toList := by
  have unstarred : '*' ∉ "abcbd".toList := by decide
  have found : ['b', 'd'] ∈ language ['b', '?'] := cons_mem_language rfl (cons_mem_language rfl rfl)
  have member : "abcbd".toList ∈ language "*b?".toList :=
    mem_language_star.mpr ⟨['b', 'd'], by decide, found⟩
  have accepted := ((last_star_suffices "*b?" "abcbd").2.2 unstarred).mpr member
  exact ⟨unstarred, accepted, (last_star_suffices "*b?" "abcbd").2.1 accepted⟩

end LobbyPlacement.Text.Glob
