import LobbyPlacement.Bus

/-!
# Inboxes

One subscriber by itself, as if its channel kept every payload: what has arrived and was not read
yet. A reader that is behind by more than the ring holds is told so and goes on where the ring
begins. `passed_answers_le` and `unread_reading` say that what is read, what is reported missed and
what is left make up everything that arrived; `payload_of_answers` says that a payload read is the
one whose turn it was.
-/

namespace LobbyPlacement

/-- What one subscriber notices: a payload arrives on its channel, or it reads. -/
inductive Letter
  | arrival (payload : Payload)
  | reading

/-- The payload that a letter brings. -/
def Letter.payload? : Letter → Option Payload
  | arrival payload => some payload
  | reading => none

namespace Received

/-- How far an answer takes its reader, past what it was given or has missed. -/
def passed : Received → Nat
  | payload _ => 1
  | lagged missed => missed
  | empty => 0
  | noSubscriber => 0

def passedAll : List Received → Nat
  | [] => 0
  | answer :: rest => answer.passed + passedAll rest

@[simp]
theorem passedAll_nil : passedAll [] = 0 := rfl

@[simp]
theorem passedAll_cons (answer : Received) (rest : List Received) :
    passedAll (answer :: rest) = answer.passed + passedAll rest := rfl

end Received

/-- The payloads that have arrived and were not read, the next one first. -/
abbrev Inbox := List Payload

namespace Inbox

def answer (slots : Nat) (unread : Inbox) : Received :=
  match unread with
  | [] => .empty
  | payload :: _ =>
    if slots < unread.length then .lagged (unread.length - slots) else .payload payload

/-- The answers to all readings. -/
def answers (slots : Nat) (unread : Inbox) : List Letter → List Received
  | [] => []
  | .arrival payload :: rest => answers slots (unread ++ [payload]) rest
  | .reading :: rest =>
    answer slots unread :: answers slots (unread.drop (answer slots unread).passed) rest

def arrivals (letters : List Letter) : List Payload := letters.filterMap Letter.payload?

@[simp]
theorem arrivals_arrival (payload : Payload) (rest : List Letter) :
    arrivals (.arrival payload :: rest) = payload :: arrivals rest := rfl

@[simp]
theorem arrivals_reading (rest : List Letter) : arrivals (.reading :: rest) = arrivals rest := rfl

theorem answer_spec (slots : Nat) (unread : Inbox) :
    (answer slots unread = .empty ↔ unread = []) ∧
      (∀ missed, answer slots unread = .lagged missed ↔
        slots < unread.length ∧ missed = unread.length - slots) ∧
      (∀ payload, answer slots unread = .payload payload ↔
        unread.length ≤ slots ∧ unread.head? = some payload) ∧
      answer slots unread ≠ .noSubscriber := by
  cases unread with
  | nil => simp [answer]
  | cons payload rest =>
    simp only [answer]
    split
    next far =>
      have behind : ¬(payload :: rest).length ≤ slots := Nat.not_le.mpr far
      simp only [far, behind, true_and, false_and, Received.lagged.injEq, eq_comm]
      exact ⟨⟨nofun, nofun⟩, fun _ => trivial, fun _ => ⟨nofun, nofun⟩, nofun⟩
    next near =>
      have within : (payload :: rest).length ≤ slots := Nat.not_lt.mp near
      simp only [near, within, true_and, false_and, Received.payload.injEq, List.head?_cons,
        Option.some.injEq]
      exact ⟨⟨nofun, nofun⟩, fun _ => ⟨nofun, nofun⟩, fun _ => trivial, nofun⟩

theorem passed_answer_le (slots : Nat) (unread : Inbox) :
    (answer slots unread).passed ≤ unread.length := by
  cases unread with
  | nil => exact Nat.le_refl 0
  | cons payload rest =>
    simp only [answer]
    split
    · exact Nat.sub_le _ _
    · exact Nat.succ_le_succ (Nat.zero_le _)

/-- A reading only takes its part from the front of what has arrived or will. -/
theorem unread_reading (slots : Nat) (unread : Inbox) (rest : List Letter) :
    unread.drop (answer slots unread).passed ++ arrivals rest =
      (unread ++ arrivals rest).drop (answer slots unread).passed :=
  (List.drop_append_of_le_length (passed_answer_le slots unread)).symm

/-- No more is read or reported missed than has arrived. -/
theorem passed_answers_le (slots : Nat) (unread : Inbox) (letters : List Letter) :
    Received.passedAll (answers slots unread letters) ≤ (unread ++ arrivals letters).length := by
  induction letters generalizing unread with
  | nil => exact Nat.zero_le _
  | cons letter rest ih =>
    cases letter with
    | arrival payload =>
      have later := ih (unread ++ [payload])
      rwa [List.append_assoc] at later
    | reading =>
      have first := passed_answer_le slots unread
      have later := ih (unread.drop (answer slots unread).passed)
      rw [unread_reading, List.length_drop] at later
      simp only [answers, Received.passedAll_cons, arrivals_reading, List.length_append] at later ⊢
      omega

/-- A payload that is read is the first one behind all that was read or missed before. -/
theorem payload_of_answers {slots : Nat} {unread : Inbox} {letters : List Letter} {i : Nat}
    {payload : Payload} (given : (answers slots unread letters)[i]? = some (.payload payload)) :
    (unread ++ arrivals letters)[Received.passedAll ((answers slots unread letters).take i)]? =
      some payload := by
  induction letters generalizing unread i with
  | nil => cases given
  | cons letter rest ih =>
    cases letter with
    | arrival arrived =>
      have found := ih given
      rwa [List.append_assoc] at found
    | reading =>
      cases i with
      | zero =>
        -- The first answer gives the first payload, if there is one and it is still kept.
        have first : answer slots unread = .payload payload := Option.some.inj given
        cases unread with
        | nil => cases first
        | cons next others =>
          simp only [answer] at first
          split at first
          · cases first
          · rw [Received.payload.injEq] at first
            rw [first]
            rfl
      | succ i =>
        have found := ih given
        rw [unread_reading, List.getElem?_drop] at found
        exact found

end Inbox

end LobbyPlacement
