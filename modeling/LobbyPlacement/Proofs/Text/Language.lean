import LobbyPlacement.Text.Glob
import Mathlib.Computability.Language
import Mathlib.Data.List.Infix

/-!
# The language of a pattern

A pattern read as a set of words: `?` stands for one character, `*` for any run of them, and every
other character for itself. `mem_of_matchesFrom` says that every key that is matched is such a word,
`matchesFrom_of_mem` that every such word is matched, unless there is a star in the word itself: to
remember the latest star is as good as to remember them all.
-/

namespace LobbyPlacement.Text.Glob

/-- The words of one character. -/
def oneCharacter : Language Char := {word | word.length = 1}

/-- The words that one character of a pattern stands for. -/
def symbol (p : Char) : Language Char :=
  if p = '*' then ⊤ else if p = '?' then oneCharacter else {[p]}

/-- The words that a pattern stands for: one word of each of its characters, joined. -/
def language (pattern : List Char) : Language Char := (pattern.map symbol).prod

theorem mem_language_nil {word : List Char} : word ∈ language [] ↔ word = [] := Iff.rfl

theorem language_cons (p : Char) (pattern : List Char) :
    language (p :: pattern) = symbol p * language pattern := rfl

theorem mem_language_star {pattern word : List Char} :
    word ∈ language ('*' :: pattern) ↔ ∃ rest, rest <:+ word ∧ rest ∈ language pattern := by
  rw [language_cons, Language.mem_mul]
  constructor
  · rintro ⟨front, _, rest, member, rfl⟩
    exact ⟨rest, List.suffix_append front rest, member⟩
  · rintro ⟨rest, ⟨front, rfl⟩, member⟩
    exact ⟨front, trivial, rest, member, rfl⟩

theorem mem_symbol_plain {p : Char} (plain : p ≠ '*') {word : List Char} :
    word ∈ symbol p ↔ ∃ c, word = [c] ∧ fits p c = true := by
  unfold symbol
  rw [if_neg plain]
  by_cases any : p = '?'
  · subst any
    rw [if_pos rfl]
    exact List.length_eq_one_iff.trans (exists_congr fun c => (and_iff_left rfl).symm)
  · rw [if_neg any]
    constructor
    · rintro rfl
      exact ⟨p, rfl, by simp [fits]⟩
    · rintro ⟨c, rfl, fit⟩
      obtain rfl : p = c := by simpa [fits, any] using fit
      rfl

theorem mem_language_plain {p : Char} (plain : p ≠ '*') {pattern word : List Char} :
    word ∈ language (p :: pattern) ↔
      ∃ c rest, word = c :: rest ∧ fits p c = true ∧ rest ∈ language pattern := by
  rw [language_cons, Language.mem_mul]
  constructor
  · rintro ⟨front, first, rest, member, rfl⟩
    obtain ⟨c, rfl, fit⟩ := (mem_symbol_plain plain).mp first
    exact ⟨c, rest, rfl, fit, member⟩
  · rintro ⟨c, rest, rfl, fit, member⟩
    exact ⟨[c], (mem_symbol_plain plain).mpr ⟨c, rfl, fit⟩, rest, member, rfl⟩

theorem cons_mem_language_plain {p c : Char} (plain : p ≠ '*') {pattern rest : List Char} :
    c :: rest ∈ language (p :: pattern) ↔ fits p c = true ∧ rest ∈ language pattern := by
  rw [mem_language_plain plain]
  constructor
  · rintro ⟨_, _, same, fit, member⟩
    obtain ⟨rfl, rfl⟩ := List.cons.inj same
    exact ⟨fit, member⟩
  · rintro ⟨fit, member⟩
    exact ⟨c, rest, rfl, fit, member⟩

theorem nil_mem_language_iff {pattern : List Char} :
    [] ∈ language pattern ↔ onlyStars pattern = true := by
  induction pattern with
  | nil => exact ⟨fun _ => rfl, fun _ => rfl⟩
  | cons p rest ih =>
    by_cases star : p = '*'
    · subst star
      rw [mem_language_star]
      simp only [List.suffix_nil, exists_eq_left, ih, onlyStars, List.all_cons, beq_self_eq_true,
        Bool.true_and]
    · rw [mem_language_plain star]
      simp [onlyStars, star]

theorem ne_star_of_fits {p c : Char} (fit : fits p c = true) (plain : c ≠ '*') : p ≠ '*' := by
  rintro rfl
  have same : '*' = c := by simpa [fits] using fit
  exact plain same.symm

/-- A character that fits the next of the pattern may be taken off both. -/
theorem cons_mem_language {p c : Char} (fit : fits p c = true) {pattern rest : List Char}
    (member : rest ∈ language pattern) : c :: rest ∈ language (p :: pattern) := by
  by_cases star : p = '*'
  · subst star
    exact mem_language_star.mpr ⟨rest, List.suffix_cons c rest, member⟩
  · exact (cons_mem_language_plain star).mpr ⟨fit, member⟩

/-! ### What is accepted is in the language -/

/-- A try that fails leaves the later ones. -/
theorem later_of_retry {retry start : List Char}
    (found : start.tail ∈ language retry ∨
      ∃ rest, rest <:+ start.tail.tail ∧ rest ∈ language retry) :
    ∃ rest, rest <:+ start.tail ∧ rest ∈ language retry := by
  rcases found with here | ⟨rest, late, member⟩
  · exact ⟨start.tail, List.suffix_rfl, here⟩
  · exact ⟨rest, late.trans (List.tail_suffix _), member⟩

/-- What a star has taken in may be followed by any part of the key from there on. -/
theorem star_of_retry {pattern start : List Char}
    (found : start ∈ language pattern ∨ ∃ rest, rest <:+ start.tail ∧ rest ∈ language pattern) :
    start ∈ language ('*' :: pattern) := by
  refine mem_language_star.mpr ?_
  rcases found with here | ⟨rest, late, member⟩
  · exact ⟨start, List.suffix_rfl, here⟩
  · exact ⟨rest, late.trans (List.tail_suffix _), member⟩

/-- Behind a star a key is accepted because it matches from here, or from some later place at which
the star may be tried again. -/
theorem mem_of_afterStar {pattern key retry start : List Char}
    {shorter : pattern.length ≤ retry.length} {within : key.length ≤ start.length}
    (accepted : afterStar pattern key retry start shorter within = true) :
    key ∈ language pattern ∨ ∃ rest, rest <:+ start.tail ∧ rest ∈ language retry := by
  fun_induction afterStar pattern key retry start shorter within with
  | case1 => exact .inl (nil_mem_language_iff.mpr accepted)
  | case2 _ _ p ps c cs _ _ fit _ _ ih =>
    exact (ih accepted).imp_left (cons_mem_language fit)
  | case3 _ _ ps c cs _ _ _ _ _ ih => exact .inl (star_of_retry (ih accepted))
  | case4 _ _ p ps c cs _ _ _ _ _ _ ih => exact .inr (later_of_retry (ih accepted))
  | case5 _ _ c cs _ _ _ _ ih => exact .inr (later_of_retry (ih accepted))

theorem mem_of_matchesFrom {pattern key : List Char} (accepted : matchesFrom pattern key = true) :
    key ∈ language pattern := by
  fun_induction matchesFrom pattern key with
  | case1 pattern => exact nil_mem_language_iff.mpr accepted
  | case2 => cases accepted
  | case3 p ps c cs fit ih => exact cons_mem_language fit (ih accepted)
  | case4 ps c cs _ => exact star_of_retry (mem_of_afterStar accepted)
  | case5 => cases accepted

/-! ### What is in the language is accepted -/

/-- Since the last star as many characters of the key were matched as of the pattern, and none of
these was a star. -/
def InStep (pattern key retry start : List Char) : Prop :=
  ∃ used eaten, retry = used ++ pattern ∧ start = eaten ++ key ∧ '*' ∉ used ∧
    eaten.length = used.length

theorem inStep_fresh (pattern key : List Char) : InStep pattern key pattern key :=
  ⟨[], [], rfl, rfl, List.not_mem_nil, rfl⟩

theorem InStep.tail {p c : Char} {pattern key retry start : List Char} (plain : p ≠ '*')
    (inStep : InStep (p :: pattern) (c :: key) retry start) : InStep pattern key retry start := by
  obtain ⟨used, eaten, rfl, rfl, unstarred, even⟩ := inStep
  refine ⟨used ++ [p], eaten ++ [c], by simp, by simp, ?_, by simp [even]⟩
  simp [unstarred, Ne.symm plain]

theorem InStep.subset {pattern key retry start : List Char}
    (inStep : InStep pattern key retry start) : key ⊆ start := by
  obtain ⟨_, eaten, _, rfl, _⟩ := inStep
  exact List.subset_append_right eaten key

/-- Without stars a pattern takes one character for each of its own. -/
theorem split_of_mem {used pattern word : List Char} (unstarred : '*' ∉ used)
    (member : word ∈ language (used ++ pattern)) :
    ∃ front rest, word = front ++ rest ∧ front.length = used.length ∧
      rest ∈ language pattern := by
  induction used generalizing word with
  | nil => exact ⟨[], word, rfl, rfl, member⟩
  | cons p used ih =>
    obtain ⟨plain, later⟩ := not_or.mp (List.mem_cons.not.mp unstarred)
    obtain ⟨c, behind, rfl, _, member⟩ := (mem_language_plain (Ne.symm plain)).mp member
    obtain ⟨front, rest, rfl, even, member⟩ := ih later member
    exact ⟨c :: front, rest, rfl, by simp [even], member⟩

/-- What matches behind the last star, from some place on, matches here from some place on, and from
here if it is the whole. -/
theorem InStep.rest {pattern key retry start word : List Char}
    (inStep : InStep pattern key retry start) (late : word <:+ start)
    (member : word ∈ language retry) :
    ∃ rest, rest <:+ key ∧ rest ∈ language pattern ∧ (word = start → rest = key) := by
  obtain ⟨used, eaten, rfl, rfl, unstarred, even⟩ := inStep
  obtain ⟨front, rest, rfl, evenToo, behind⟩ := split_of_mem unstarred member
  have fewer := late.length_le
  rw [List.length_append, List.length_append] at fewer
  refine ⟨rest, ?_, behind, fun whole => ?_⟩
  · exact List.suffix_of_suffix_length_le ((List.suffix_append front rest).trans late)
      (List.suffix_append eaten key) (by omega)
  · exact (List.append_inj whole (by omega)).2

/-- Where the pattern does not match any further, the place tried last is not the right one. -/
theorem InStep.later {pattern key retry start word : List Char}
    (inStep : InStep pattern key retry start) (mismatch : key ∉ language pattern)
    (late : word <:+ start) (member : word ∈ language retry) : word <:+ start.tail := by
  obtain ⟨rest, _, behind, whole⟩ := inStep.rest late member
  cases start with
  | nil => exact late
  | cons c start =>
    rcases List.suffix_cons_iff.mp late with same | later
    · exact (mismatch (whole same ▸ behind)).elim
    · exact later

/-- A key without stars that matches behind the last star from some place on is accepted. The star
may be left for the next one: what follows that one is found from the first place where all between
the two matches, if it is found from a later one. -/
theorem afterStar_of_mem {pattern key retry start word : List Char}
    {shorter : pattern.length ≤ retry.length} {within : key.length ≤ start.length}
    (unstarred : '*' ∉ start) (inStep : InStep pattern key retry start) (late : word <:+ start)
    (member : word ∈ language retry) :
    afterStar pattern key retry start shorter within = true := by
  fun_induction afterStar pattern key retry start shorter within generalizing word with
  | case1 =>
    obtain ⟨rest, behind, found, _⟩ := inStep.rest late member
    obtain rfl := List.suffix_nil.mp behind
    exact nil_mem_language_iff.mp found
  | case2 _ _ p ps c cs _ _ fit _ _ ih =>
    have plain : c ≠ '*' := ne_of_mem_of_not_mem (inStep.subset List.mem_cons_self) unstarred
    exact ih unstarred (inStep.tail (ne_star_of_fits fit plain)) late member
  | case3 _ start ps c cs _ _ _ _ _ ih =>
    obtain ⟨rest, behind, found, _⟩ := inStep.rest late member
    obtain ⟨last, within, foundLast⟩ := mem_language_star.mp found
    have unstarredThen : '*' ∉ c :: cs := fun starred => unstarred (inStep.subset starred)
    exact ih unstarredThen (inStep_fresh ps (c :: cs)) (within.trans behind) foundLast
  | case4 _ _ p ps c cs _ _ unfit plain _ _ ih =>
    have mismatch : c :: cs ∉ language (p :: ps) :=
      fun found => unfit ((cons_mem_language_plain plain).mp found).1
    exact ih (fun starred => unstarred (List.mem_of_mem_tail starred)) (inStep_fresh _ _)
      (inStep.later mismatch late member) member
  | case5 _ _ c cs _ _ _ _ ih =>
    exact ih (fun starred => unstarred (List.mem_of_mem_tail starred)) (inStep_fresh _ _)
      (inStep.later (List.cons_ne_nil c cs) late member) member

theorem matchesFrom_of_mem {pattern key : List Char} (unstarred : '*' ∉ key)
    (member : key ∈ language pattern) : matchesFrom pattern key = true := by
  fun_induction matchesFrom pattern key with
  | case1 => exact nil_mem_language_iff.mp member
  | case2 c cs => cases mem_language_nil.mp member
  | case3 p ps c cs fit ih =>
    have plain : c ≠ '*' := ne_of_mem_of_not_mem List.mem_cons_self unstarred
    have rest := ((cons_mem_language_plain (ne_star_of_fits fit plain)).mp member).2
    exact ih (fun starred => unstarred (List.mem_cons_of_mem c starred)) rest
  | case4 ps c cs _ =>
    obtain ⟨rest, late, found⟩ := mem_language_star.mp member
    exact afterStar_of_mem unstarred (inStep_fresh ps (c :: cs)) late found
  | case5 p ps c cs unfit plain =>
    exact (unfit ((cons_mem_language_plain plain).mp member).1).elim

end LobbyPlacement.Text.Glob
