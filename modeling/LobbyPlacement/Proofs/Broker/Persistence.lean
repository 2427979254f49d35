import LobbyPlacement.Broker.Connection
import LobbyPlacement.Proofs.Broker.Waits

/-!
# Persistence

What it means to try until it works or the patience is at its end. `Persists` says how such a loop
goes, failure by failure, its crashes included; whatever keeps to it needs no other look at its
code. `Persists.stops` tells the same as one streak of failures and waits, and what ends it.
`AsTold` is what is asked of the loop: up to so many retries and no more. `Persists.asTold` says
that it is met if no counter is too small, `Persists.crashes` that otherwise a long enough streak of
failures ends in a crash, and `Persists.backsOff` how long the waits are.
-/

namespace LobbyPlacement

/-- What is tried: it starts at some time, and leaves something behind. -/
abbrev Trial (σ : Type) := σ → Nat → σ × Attempt

/-- How trying ended: what it left behind, the failures that were followed by a wait, and what came
of it. -/
abbrev Passage (σ : Type) := σ × List Setback × Attempt

namespace Attempt

/-- The same attempt on a clock that was started earlier. -/
def delayed (ms : Nat) : Attempt → Attempt
  | settled after result => settled (ms + after) result
  | pending => pending
  | crashed after => crashed (ms + after)

@[simp]
theorem delayed_settled (ms after : Nat) (result : Except Fault Unit) :
    (settled after result).delayed ms = settled (ms + after) result := rfl

@[simp]
theorem delayed_pending (ms : Nat) : pending.delayed ms = pending := rfl

@[simp]
theorem delayed_crashed (ms after : Nat) : (crashed after).delayed ms = crashed (ms + after) := rfl

theorem delayed_zero (a : Attempt) : a.delayed 0 = a := by
  cases a <;> simp

theorem delayed_delayed (a : Attempt) (first second : Nat) :
    (a.delayed second).delayed first = a.delayed (first + second) := by
  cases a <;> simp [Nat.add_assoc]

end Attempt

section

variable {σ : Type}

/-- How a loop of trials goes on after so many failures. The fault it ends with is made of the one
that came last. -/
inductive Persists (rule : RetryRule) (trial : Trial σ) (told : Fault → Fault) :
    (failures : Nat) → σ → (now : Nat) → Passage σ → Prop
  | succeeded {failures now spent : Nat} {s left : σ}
      (done : trial s now = (left, .settled spent (.ok ()))) :
      Persists rule trial told failures s now (left, [], .settled spent (.ok ()))
  | unanswered {failures now : Nat} {s left : σ} (silent : trial s now = (left, .pending)) :
      Persists rule trial told failures s now (left, [], .pending)
  | gaveUp {failures now spent : Nat} {s left : σ} {fault : Fault}
      (failed : trial s now = (left, .settled spent (.error fault)))
      (counted : failures < Text.maxUInt32) (enough : rule.maxRetries ≤ failures) :
      Persists rule trial told failures s now (left, [], .settled spent (.error (told fault)))
  | uncounted {failures now spent : Nat} {s left : σ} {fault : Fault}
      (failed : trial s now = (left, .settled spent (.error fault)))
      (full : Text.maxUInt32 ≤ failures) :
      Persists rule trial told failures s now (left, [], .crashed spent)
  | undoubled {now spent : Nat} {s left : σ} {fault : Fault}
      (failed : trial s now = (left, .settled spent (.error fault)))
      (retried : 0 < rule.maxRetries) (tooLong : 2 ^ 63 ≤ rule.firstWait) :
      Persists rule trial told 0 s now
        (left, [⟨fault, rule.wait 0⟩], .crashed (spent + rule.wait 0))
  | retried {failures now spent : Nat} {s next left : σ} {fault : Fault}
      {setbacks : List Setback} {ending : Attempt}
      (failed : trial s now = (next, .settled spent (.error fault)))
      (counted : failures < Text.maxUInt32) (fewer : failures < rule.maxRetries)
      (doubled : ¬(failures = 0 ∧ 2 ^ 63 ≤ rule.firstWait))
      (rest : Persists rule trial told (failures + 1) next (now + (spent + rule.wait failures))
        (left, setbacks, ending)) :
      Persists rule trial told failures s now
        (left, ⟨fault, rule.wait failures⟩ :: setbacks,
          ending.delayed (spent + rule.wait failures))

/-- Trials that fail one after the other, each followed by a wait: what they leave behind, and how
long it took. -/
inductive Trail (trial : Trial σ) : σ → (now : Nat) → List Setback → σ → (elapsed : Nat) → Prop
  | nil (s : σ) (now : Nat) : Trail trial s now [] s 0
  | cons {s next last : σ} {now spent wait elapsed : Nat} {fault : Fault}
      {setbacks : List Setback} (failed : trial s now = (next, .settled spent (.error fault)))
      (rest : Trail trial next (now + (spent + wait)) setbacks last elapsed) :
      Trail trial s now (⟨fault, wait⟩ :: setbacks) last (spent + wait + elapsed)

/-- What is asked of a loop with so many retries: it ends with the first trial that succeeds, if
that is among one more than the retries, and otherwise with the fault of the last of these. -/
inductive AsTold (retries : Nat) (trial : Trial σ) (told : Fault → Fault) (s : σ) (now : Nat) :
    Passage σ → Prop
  | succeeded {setbacks : List Setback} {last left : σ} {elapsed spent : Nat}
      (failed : Trail trial s now setbacks last elapsed) (few : setbacks.length ≤ retries)
      (done : trial last (now + elapsed) = (left, .settled spent (.ok ()))) :
      AsTold retries trial told s now (left, setbacks, .settled (elapsed + spent) (.ok ()))
  | gaveUp {setbacks : List Setback} {last left : σ} {elapsed spent : Nat} {fault : Fault}
      (failed : Trail trial s now setbacks last elapsed) (all : setbacks.length = retries)
      (failedToo : trial last (now + elapsed) = (left, .settled spent (.error fault))) :
      AsTold retries trial told s now
        (left, setbacks, .settled (elapsed + spent) (.error (told fault)))
  | unanswered {setbacks : List Setback} {last left : σ} {elapsed : Nat}
      (failed : Trail trial s now setbacks last elapsed) (few : setbacks.length ≤ retries)
      (silent : trial last (now + elapsed) = (left, .pending)) :
      AsTold retries trial told s now (left, setbacks, .pending)

/-- What ends a loop after so many waits: a trial that has not failed, a failure after which there
is no retry left or no room to count it, or a first wait that is too long to be doubled. A loop
gives up only after all its retries, and only if these can be counted. -/
inductive Stops (rule : RetryRule) (trial : Trial σ) (told : Fault → Fault) (s : σ) (now : Nat) :
    (waits : Nat) → (left : σ) → Attempt → Prop
  | succeeded {waits spent : Nat} {left : σ}
      (done : trial s now = (left, .settled spent (.ok ()))) :
      Stops rule trial told s now waits left (.settled spent (.ok ()))
  | unanswered {waits : Nat} {left : σ} (silent : trial s now = (left, .pending)) :
      Stops rule trial told s now waits left .pending
  | gaveUp {spent : Nat} {left : σ} {fault : Fault}
      (failed : trial s now = (left, .settled spent (.error fault)))
      (counted : rule.maxRetries < Text.maxUInt32) :
      Stops rule trial told s now rule.maxRetries left (.settled spent (.error (told fault)))
  | uncounted {waits spent : Nat} {left : σ} {fault : Fault}
      (failed : trial s now = (left, .settled spent (.error fault)))
      (full : Text.maxUInt32 ≤ waits) :
      Stops rule trial told s now waits left (.crashed spent)
  | undoubled (tooLong : 2 ^ 63 ≤ rule.firstWait) : Stops rule trial told s now 1 s (.crashed 0)

/-- How a loop backs off. Its course is a streak of failed trials, each followed by a wait that
passes before the next trial, up to what stops it. The clauses before say how long the waits are,
those behind when doubling one is too much: it is for the first one or never. -/
structure BacksOff (rule : RetryRule) (trial : Trial σ) (told : Fault → Fault) (s : σ) (now : Nat)
    (course : Passage σ) : Prop where
  first : ∀ b, course.2.1[0]? = some b → b.wait = rule.firstWait
  later : ∀ n b, 0 < n → course.2.1[n]? = some b →
    b.wait = min (rule.firstWait * 2 ^ n) rule.longestWait
  rising : ∀ m n b d, 0 < m → m ≤ n → course.2.1[m]? = some b → course.2.1[n]? = some d →
    b.wait ≤ d.wait
  capped : ∀ n b, 0 < n → course.2.1[n]? = some b → b.wait ≤ rule.longestWait
  waited : ∃ last elapsed ending, Trail trial s now course.2.1 last elapsed ∧
    Stops rule trial told last (now + elapsed) course.2.1.length course.1 ending ∧
    course.2.2 = ending.delayed elapsed
  overflows : 2 ^ 63 ≤ rule.firstWait → 0 < rule.maxRetries → ∀ next spent fault,
    trial s now = (next, .settled spent (.error fault)) →
      course = (next, [⟨fault, rule.firstWait⟩], .crashed (spent + rule.firstWait))
  overflowed : course.2.1 ≠ [] → (2 ^ 63 ≤ rule.firstWait ↔
    course.2.1.length = 1 ∧ ∃ after, course.2.2 = .crashed after)
  doubles : rule.firstWait < 2 ^ 63 → ∀ after, course.2.2 = .crashed after →
    Text.maxUInt32 ≤ course.2.1.length

/-- No counter of a loop with this rule is ever too small. -/
def RetryRule.Sound (rule : RetryRule) : Prop :=
  rule.maxRetries = 0 ∨ rule.maxRetries < Text.maxUInt32 ∧ rule.firstWait < 2 ^ 63

namespace RetryRule.Sound

variable {rule : RetryRule}

theorem counts (sound : rule.Sound) {failures : Nat} (within : failures ≤ rule.maxRetries) :
    ¬Text.maxUInt32 ≤ failures := by
  have some_room : 0 < Text.maxUInt32 := by decide
  simp only [Sound] at sound
  omega

theorem doubles (sound : rule.Sound) (retried : 0 < rule.maxRetries) :
    ¬2 ^ 63 ≤ rule.firstWait := by
  simp only [Sound] at sound
  omega

end RetryRule.Sound

theorem AsTold.not_crashed {retries now : Nat} {trial : Trial σ} {told : Fault → Fault} {s : σ}
    {course : Passage σ} (asTold : AsTold retries trial told s now course) {after : Nat} :
    course.2.2 ≠ .crashed after := by
  cases asTold <;> exact nofun

/-- What has failed so often along a trail still fails as often as is left. -/
theorem Trail.failing {trial : Trial σ} {s last : σ} {now elapsed streak : Nat}
    {setbacks : List Setback} {Fails : Nat → σ → Prop}
    (fails : ∀ streak s now, Fails (streak + 1) s →
      ∃ left spent fault, trial s now = (left, .settled spent (.error fault)) ∧ Fails streak left)
    (trail : Trail trial s now setbacks last elapsed)
    (failing : Fails (streak + setbacks.length) s) : Fails streak last := by
  induction trail with
  | nil => exact failing
  | @cons s _ _ now _ _ _ _ _ failed rest ih =>
    obtain ⟨_, _, _, failedSo, then_⟩ := fails _ s now failing
    rw [failed] at failedSo
    cases failedSo
    exact ih then_

namespace Persists

variable {rule : RetryRule} {trial : Trial σ} {told : Fault → Fault} {failures now : Nat} {s : σ}
  {course : Passage σ}

/-! ### One streak of failures -/

theorem failures_le (run : Persists rule trial told failures s now course)
    (within : failures ≤ min rule.maxRetries Text.maxUInt32) :
    failures + course.2.1.length ≤ min rule.maxRetries Text.maxUInt32 := by
  induction run with
  | succeeded | unanswered | gaveUp | uncounted => exact within
  | undoubled failed retried tooLong =>
    exact Nat.le_min_of_le_of_le retried (by decide : 0 + 1 ≤ Text.maxUInt32)
  | retried failed counted fewer doubled rest ih =>
    have later := ih (Nat.le_min_of_le_of_le fewer counted)
    simp only [List.length_cons] at later ⊢
    omega

/-- There are no more waits than retries, nor more than can be counted. -/
theorem length_le (run : Persists rule trial told 0 s now course) :
    course.2.1.length ≤ rule.maxRetries ∧ course.2.1.length ≤ Text.maxUInt32 := by
  have within := run.failures_le (Nat.zero_le _)
  rw [Nat.zero_add] at within
  exact Nat.le_min.mp within

/-- A loop is a streak of failures and waits, up to what stops it. -/
theorem stops (run : Persists rule trial told failures s now course)
    (within : failures ≤ rule.maxRetries) :
    ∃ last elapsed ending, Trail trial s now course.2.1 last elapsed ∧
      Stops rule trial told last (now + elapsed) (failures + course.2.1.length) course.1 ending ∧
      course.2.2 = ending.delayed elapsed := by
  induction run with
  | @succeeded _ now _ s _ done =>
    exact ⟨s, 0, _, .nil s now, .succeeded done, (Attempt.delayed_zero _).symm⟩
  | @unanswered _ now s _ silent =>
    exact ⟨s, 0, _, .nil s now, .unanswered silent, (Attempt.delayed_zero _).symm⟩
  | @gaveUp failures now _ s _ _ failed counted enough =>
    obtain rfl : rule.maxRetries = failures := Nat.le_antisymm enough within
    exact ⟨s, 0, _, .nil s now, .gaveUp failed counted, (Attempt.delayed_zero _).symm⟩
  | @uncounted _ now _ s _ _ failed full =>
    exact ⟨s, 0, _, .nil s now, .uncounted failed full, (Attempt.delayed_zero _).symm⟩
  | undoubled failed retried tooLong =>
    exact ⟨_, _, _, .cons failed (.nil _ _), .undoubled tooLong, rfl⟩
  | @retried failures now _ _ _ _ _ setbacks _ failed counted fewer doubled rest ih =>
    obtain ⟨last, elapsed, ending, trail, stopped, same⟩ := ih fewer
    refine ⟨last, _, ending, .cons failed trail, ?_, ?_⟩
    · have waits : failures + (setbacks.length + 1) = failures + 1 + setbacks.length := by omega
      rw [List.length_cons, waits, ← Nat.add_assoc now]
      exact stopped
    · dsimp only at same ⊢
      rw [same, Attempt.delayed_delayed]

theorem asTold (sound : rule.Sound) (run : Persists rule trial told 0 s now course) :
    AsTold rule.maxRetries trial told s now course := by
  obtain ⟨last, elapsed, ending, trail, stopped, same⟩ := run.stops (Nat.zero_le _)
  have few := run.length_le.1
  rw [Nat.zero_add] at stopped
  obtain ⟨left, setbacks, _⟩ := course
  dsimp only at trail stopped same few
  subst same
  generalize waits : setbacks.length = number at stopped
  cases stopped with
  | succeeded done => exact .succeeded trail few done
  | unanswered silent => exact .unanswered trail few silent
  | gaveUp failed counted => exact .gaveUp trail waits failed
  | uncounted failed full => exact absurd full (sound.counts (waits ▸ few))
  | undoubled tooLong => exact absurd tooLong (sound.doubles (by omega))

/-- A loop whose trials are all answered comes to its end. -/
theorem settles (sound : rule.Sound) {Kept : σ → Prop}
    (answered : ∀ s now, Kept s →
      ∃ left spent result, trial s now = (left, .settled spent result) ∧ Kept left)
    (run : Persists rule trial told failures s now course) (within : failures ≤ rule.maxRetries)
    (kept : Kept s) : ∃ spent result, course.2.2 = .settled spent result := by
  induction run with
  | succeeded | gaveUp => exact ⟨_, _, rfl⟩
  | @unanswered _ now s _ silent =>
    obtain ⟨_, _, _, tried, _⟩ := answered s now kept
    rw [silent] at tried
    cases tried
  | uncounted failed full => exact absurd full (sound.counts within)
  | undoubled failed retried tooLong => exact absurd tooLong (sound.doubles retried)
  | @retried _ now _ s _ _ _ _ ending failed _ fewer _ _ ih =>
    obtain ⟨_, _, _, tried, keptThen⟩ := answered s now kept
    rw [failed] at tried
    cases tried
    obtain ⟨spent, result, ended⟩ := ih fewer keptThen
    change ending = .settled spent result at ended
    subst ended
    exact ⟨_, _, rfl⟩

/-! ### Counters that are too small -/

theorem ends_pending {left : σ} (run : Persists rule trial told failures s now course)
    (silent : trial s now = (left, .pending)) : course.2.2 = .pending := by
  cases run with
  | unanswered => rfl
  | succeeded answered | gaveUp answered | uncounted answered | undoubled answered
  | retried answered =>
    rw [silent] at answered
    cases answered

/-- A loop that may go on after its first failure, and whose first wait cannot be doubled, crashes
behind that wait if its first trial fails. -/
theorem ends_undoubled (retried : 0 < rule.maxRetries) (tooLong : 2 ^ 63 ≤ rule.firstWait)
    (run : Persists rule trial told 0 s now course) {next : σ} {spent : Nat} {fault : Fault}
    (failed : trial s now = (next, .settled spent (.error fault))) :
    course = (next, [⟨fault, rule.firstWait⟩], .crashed (spent + rule.firstWait)) := by
  cases run with
  | succeeded done => rw [failed] at done; cases done
  | unanswered silent => rw [failed] at silent; cases silent
  | gaveUp _ _ enough => omega
  | uncounted _ full => exact absurd full (by decide)
  | undoubled failedSo =>
    rw [failed] at failedSo
    cases failedSo
    rfl
  | retried _ _ _ doubled _ => exact (doubled ⟨rfl, tooLong⟩).elim

/-- A loop that fails long enough crashes, or gives up after all its retries. -/
theorem ends_failing (Fails : Nat → σ → Prop)
    (fails : ∀ streak s now, Fails (streak + 1) s →
      ∃ left spent fault, trial s now = (left, .settled spent (.error fault)) ∧ Fails streak left)
    (run : Persists rule trial told 0 s now course) {streak : Nat} (failing : Fails streak s)
    (long : course.2.1.length < streak) :
    (∃ after, course.2.2 = .crashed after) ∨
      course.2.1.length = rule.maxRetries ∧ rule.maxRetries < Text.maxUInt32 := by
  obtain ⟨last, elapsed, ending, trail, stopped, same⟩ := run.stops (Nat.zero_le _)
  obtain ⟨more, rfl⟩ : ∃ more, streak = more + 1 + course.2.1.length :=
    ⟨streak - 1 - course.2.1.length, by omega⟩
  obtain ⟨_, _, _, failed, _⟩ := fails more last (now + elapsed) (trail.failing fails failing)
  rw [Nat.zero_add] at stopped
  rw [same]
  generalize course.2.1.length = waits at stopped ⊢
  cases stopped with
  | succeeded done => rw [failed] at done; cases done
  | unanswered silent => rw [failed] at silent; cases silent
  | gaveUp _ counted => exact .inr ⟨rfl, counted⟩
  | uncounted | undoubled => exact .inl ⟨_, rfl⟩

/-- A loop with more retries than can be counted crashes if it fails long enough. -/
theorem crashes_uncounted (tooMany : Text.maxUInt32 ≤ rule.maxRetries) (Fails : Nat → σ → Prop)
    (fails : ∀ streak s now, Fails (streak + 1) s →
      ∃ left spent fault, trial s now = (left, .settled spent (.error fault)) ∧ Fails streak left)
    (run : Persists rule trial told 0 s now course) {streak : Nat} (failing : Fails streak s)
    (long : Text.maxUInt32 < streak) : ∃ after, course.2.2 = .crashed after := by
  rcases run.ends_failing Fails fails failing (Nat.lt_of_le_of_lt run.length_le.2 long) with
    crashed | ⟨_, few⟩
  · exact crashed
  · exact absurd few (Nat.not_lt_of_le tooMany)

/-- A counter that is too small ends a loop with a crash if the loop fails long enough. -/
theorem crashes (unsound : ¬rule.Sound) (Fails : Nat → σ → Prop)
    (fails : ∀ streak s now, Fails (streak + 1) s →
      ∃ left spent fault, trial s now = (left, .settled spent (.error fault)) ∧ Fails streak left)
    (run : Persists rule trial told 0 s now course) {streak : Nat}
    (long : Text.maxUInt32 < streak) (failing : Fails streak s) :
    ∃ after, course.2.2 = .crashed after := by
  rcases Nat.lt_or_ge rule.maxRetries Text.maxUInt32 with few | tooMany
  · cases streak with
    | zero => omega
    | succ streak =>
      simp only [RetryRule.Sound] at unsound
      obtain ⟨left, spent, fault, failed, _⟩ := fails streak s now failing
      rw [run.ends_undoubled (by omega) (by omega) failed]
      exact ⟨_, rfl⟩
  · exact run.crashes_uncounted tooMany Fails fails failing long

/-! ### How long the waits are -/

theorem wait_eq (run : Persists rule trial told failures s now course) {n : Nat} {setback : Setback}
    (waited : course.2.1[n]? = some setback) : setback.wait = rule.wait (failures + n) := by
  induction run generalizing n with
  | succeeded | unanswered | gaveUp | uncounted => cases waited
  | undoubled =>
    cases n with
    | zero =>
      cases waited
      rfl
    | succ => cases waited
  | @retried failures _ _ _ _ _ _ _ _ _ _ _ _ _ ih =>
    cases n with
    | zero =>
      cases waited
      rfl
    | succ n =>
      rw [ih waited]
      congr 1
      omega

/-- Unless it is about the first doubling, a loop crashes only when its failures are too many to be
counted. -/
theorem counted_out (run : Persists rule trial told 0 s now course)
    (short : rule.firstWait < 2 ^ 63) {after : Nat} (crashed : course.2.2 = .crashed after) :
    Text.maxUInt32 ≤ course.2.1.length := by
  obtain ⟨last, elapsed, ending, trail, stopped, same⟩ := run.stops (Nat.zero_le _)
  rw [Nat.zero_add] at stopped
  rw [crashed] at same
  generalize course.2.1.length = waits at stopped ⊢
  cases stopped with
  | succeeded | unanswered | gaveUp => cases same
  | uncounted failed full => exact full
  | undoubled tooLong => omega

theorem backsOff (run : Persists rule trial told 0 s now course) :
    BacksOff rule trial told s now course := by
  have waits := fun n setback (waited : course.2.1[n]? = some setback) => run.wait_eq waited
  have stops := run.stops (Nat.zero_le _)
  simp only [Nat.zero_add] at waits stops
  refine ⟨waits 0, ?_, ?_, ?_, stops, ?_, ?_, fun short _ crashed => run.counted_out short crashed⟩
  · intro n setback later waited
    rw [waits n setback waited, RetryRule.wait, if_neg (Nat.ne_of_gt later)]
  · intro m n earlier later second order waited waitedThen
    rw [waits m _ waited, waits n _ waitedThen]
    exact rule.wait_mono second order
  · intro n setback later waited
    rw [waits n setback waited]
    exact rule.wait_le_longest later
  · intro tooLong retried next spent fault failed
    exact run.ends_undoubled retried tooLong failed
  · intro some_wait
    constructor
    · intro tooLong
      cases run with
      | succeeded | unanswered | gaveUp | uncounted => exact (some_wait rfl).elim
      | undoubled => exact ⟨rfl, _, rfl⟩
      | retried _ _ _ doubled _ => exact (doubled ⟨rfl, tooLong⟩).elim
    · rintro ⟨one, after, crashed⟩
      rcases Nat.lt_or_ge rule.firstWait (2 ^ 63) with short | long
      · have full := run.counted_out short crashed
        rw [one] at full
        exact (Nat.not_lt_of_le full (by decide)).elim
      · exact long

/-! ### How long it takes -/

/-- If no trial takes longer than a limit, apart from costs that are met from what is there at the
start, then all of them together with the waits take no longer than they may. -/
theorem spent_le {Kept : σ → Prop} {cost : σ → Nat} {limit : Nat}
    (paid : ∀ s now left spent result, Kept s → trial s now = (left, .settled spent result) →
      Kept left ∧ spent + cost left ≤ limit + cost s)
    (run : Persists rule trial told failures s now course) (kept : Kept s) {spent : Nat}
    {result : Except Fault Unit} (ended : course.2.2 = .settled spent result) :
    spent + cost course.1 ≤
      (course.2.1.length + 1) * limit + (course.2.1.map Setback.wait).sum + cost s := by
  induction run generalizing spent with
  | succeeded done =>
    cases ended
    simpa using (paid _ _ _ _ _ kept done).2
  | unanswered silent => cases ended
  | gaveUp failed counted enough =>
    cases ended
    simpa using (paid _ _ _ _ _ kept failed).2
  | uncounted failed full => cases ended
  | undoubled failed retried tooLong => cases ended
  | @retried _ _ _ _ _ _ _ _ ending failed _ _ _ rest ih =>
    obtain ⟨keptThen, first⟩ := paid _ _ _ _ _ kept failed
    cases ending with
    | pending | crashed => cases ended
    | settled spentThen resultThen =>
      cases ended
      have later := ih keptThen rfl
      simp only [List.length_cons, List.map_cons, List.sum_cons, Nat.add_mul, Nat.one_mul]
        at later ⊢
      omega

end Persists

end

namespace Response

def refusals (number : Nat) : List Response := List.replicate number (.after 0 (some ""))

theorem refusals_succ (number : Nat) :
    refusals (number + 1) = .after 0 (some "") :: refusals number := rfl

end Response

end LobbyPlacement
