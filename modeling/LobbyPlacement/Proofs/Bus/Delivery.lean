import Mathlib.Data.Set.Card
import LobbyPlacement.Proofs.Bus.Inbox

/-!
# Deliveries on the local bus

A bus used in any way: subscriptions, publications, readings and drops in any order, on any number
of channels. `act_serves` says what one deed means to one subscriber, and that is what it means to
the inbox of `Inbox`: so a subscriber hears of its own channel alone, and of everything there that
it is not told to have missed.
-/

namespace LobbyPlacement

namespace Ring

/-- The ring through which all these payloads have gone. -/
def holding (slots : Nat) (all : List Payload) : Ring := ⟨all.length, keepLast slots all⟩

theorem push_holding (slots : Nat) (all : List Payload) (payload : Payload) :
    (holding slots all).push slots payload = holding slots (all ++ [payload]) := by
  have front : all.length - slots ≤ all.length := Nat.sub_le _ _
  have dropped : all.length - slots + ((all ++ [payload]).length - (all.length - slots) - slots) =
      (all ++ [payload]).length - slots := by
    rw [List.length_append, List.length_singleton]
    omega
  have kept : keepLast slots (keepLast slots all ++ [payload]) =
      keepLast slots (all ++ [payload]) := by
    unfold keepLast
    rw [← List.drop_append_of_le_length front, List.length_drop, List.drop_drop, dropped]
  simp only [push, holding, kept, List.length_append, List.length_singleton]

/-- A ring still knows a payload that fewer than its slots have followed. -/
theorem payload?_holding {slots position : Nat} {all : List Payload}
    (kept : all.length - slots ≤ position) :
    (holding slots all).payload? position = all[position]? := by
  have length : (keepLast slots all).length = all.length - (all.length - slots) := List.length_drop
  have first : all.length - (keepLast slots all).length = all.length - slots := by omega
  show (keepLast slots all)[position - (all.length - (keepLast slots all).length)]? = _
  rw [first]
  unfold keepLast
  rw [List.getElem?_drop, Nat.add_sub_cancel' kept]

end Ring

namespace Bus

/-! ### One operation at a time -/

def ringOf (b : Bus) (channel : String) : Ring := (b.channels.lookup channel).getD .empty

theorem lookup_setRing (name other : String) (ring : Ring) (channels : List (String × Ring)) :
    (setRing name ring channels).lookup other =
      if other = name then some ring else channels.lookup other := by
  induction channels with
  | nil => by_cases h : other = name <;> grind [setRing]
  | cons entry rest ih => by_cases h : other = name <;> grind [setRing]

theorem ringOf_setRing (b : Bus) (name other : String) (ring : Ring) :
    { b with channels := setRing name ring b.channels }.ringOf other =
      if other = name then ring else b.ringOf other := by
  simp only [ringOf, lookup_setRing]
  split <;> rfl

/-- A bus on which channels can be opened. -/
structure Sound (b : Bus) : Prop where
  whole : b.isBroken = false
  fits : RingFits b.capacity

/-- Looking for a ring may open a channel, which changes no ring. -/
theorem ring_eq {b : Bus} (sound : b.Sound) (name : String) :
    ∃ channels, b.ring name = ({ b with channels := channels }, .ok (b.ringOf name)) ∧
      ∀ other, { b with channels := channels }.ringOf other = b.ringOf other := by
  unfold ring
  rw [if_neg (ne_true_of_eq_false sound.whole)]
  cases known : b.channels.lookup name with
  | some ring =>
    refine ⟨b.channels, ?_, fun _ => rfl⟩
    rw [ringOf, known, Option.getD_some]
  | none =>
    refine ⟨setRing name .empty b.channels, ?_, ?_⟩
    · rw [ringOf, known, Option.getD_none]
      exact if_pos sound.fits
    · intro other
      rw [ringOf_setRing]
      split
      next same => rw [same, ringOf, known, Option.getD_none]
      next => rfl

theorem publish_eq {b : Bus} (sound : b.Sound) (name : String) (payload : Payload) :
    ∃ channels, b.publish name payload = ({ b with channels := channels }, .ok ()) ∧
      ∀ other, { b with channels := channels }.ringOf other =
        if other = name then (b.ringOf other).push b.slots payload else b.ringOf other := by
  obtain ⟨channels, opened, same⟩ := ring_eq sound name
  refine ⟨setRing name ((b.ringOf name).push b.slots payload) channels, ?_, ?_⟩
  · simp only [publish, opened]
    rfl
  · intro other
    have set := ringOf_setRing { b with channels := channels } name other
      ((b.ringOf name).push b.slots payload)
    rw [same] at set
    rw [set]
    split
    next here => rw [here]
    next => rfl

theorem subscribe_eq {b : Bus} (sound : b.Sound) (name : String) :
    ∃ channels, b.subscribe name =
        ({ b with
            channels := channels
            subscribers := b.subscribers ++ [some ⟨name, (b.ringOf name).published⟩] },
          .ok b.subscribers.length) ∧
      ∀ other, { b with channels := channels }.ringOf other = b.ringOf other := by
  obtain ⟨channels, opened, same⟩ := ring_eq sound name
  refine ⟨channels, ?_, same⟩
  simp only [subscribe, opened]

/-- A reading moves one subscriber along its channel, if anything. -/
theorem receive_eq (b : Bus) (number : Nat) :
    ∃ move : Subscriber → Subscriber, (∀ s, (move s).channel = s.channel) ∧
      (b.receive number).1 =
        { b with subscribers := b.subscribers.modify number (Option.map move) } := by
  have still : b = { b with subscribers := b.subscribers.modify number (Option.map id) } := by
    rw [Option.map_id, List.modify_id]
  have moved : ∀ position, ∃ move : Subscriber → Subscriber, (∀ s, (move s).channel = s.channel) ∧
      b.moveTo number position =
        { b with subscribers := b.subscribers.modify number (Option.map move) } :=
    fun position => ⟨fun s => { s with position := position }, fun _ => rfl, rfl⟩
  unfold receive
  split
  · exact ⟨id, fun _ => rfl, still⟩
  · exact ⟨id, fun _ => rfl, still⟩
  · dsimp only
    split
    · exact ⟨id, fun _ => rfl, still⟩
    · split
      · exact moved _
      · split
        · exact moved _
        · exact ⟨id, fun _ => rfl, still⟩

/-! ### Deeds, one after the other -/

inductive Deed
  | subscribe (channel : String)
  | publish (channel : String) (payload : Payload)
  | receive (number : Nat)
  | drop (number : Nat)
deriving DecidableEq

namespace Deed

def isSubscription : Deed → Bool
  | subscribe _ => true
  | _ => false

/-- The payload, if it is published on this channel. -/
def payloadOn? (channel : String) : Deed → Option Payload
  | publish other payload => if other = channel then some payload else none
  | _ => none

/-- What a deed means to the subscriber of this number on this channel. -/
def letter? (channel : String) (number : Nat) : Deed → Option Letter
  | publish other payload => if other = channel then some (.arrival payload) else none
  | receive other => if other = number then some .reading else none
  | _ => none

end Deed

/-- The number of subscriptions, which is the number of the next subscriber. -/
def subscriptions (deeds : List Deed) : Nat := deeds.countP Deed.isSubscription

def publishedOn (channel : String) (deeds : List Deed) : List Payload :=
  deeds.filterMap (Deed.payloadOn? channel)

/-- The subscriber of this number subscribed to the channel and was not dropped since. -/
def LiveOn (channel : String) (deeds : List Deed) (number : Nat) : Prop :=
  ∃ front back, deeds = front ++ .subscribe channel :: back ∧ subscriptions front = number ∧
    .drop number ∉ back

def act (b : Bus) : Deed → Bus
  | .subscribe channel => (b.subscribe channel).1
  | .publish channel payload => (b.publish channel payload).1
  | .receive number => (b.receive number).1
  | .drop number => b.drop number

def run (b : Bus) (deeds : List Deed) : Bus := deeds.foldl act b

/-- The answers to all readings of one subscriber. -/
def receipts (number : Nat) (b : Bus) : List Deed → List Received
  | [] => []
  | deed :: rest =>
    (if deed = .receive number then [(b.receive number).2] else []) ++
      (b.act deed).receipts number rest

theorem run_append (b : Bus) (first second : List Deed) :
    b.run (first ++ second) = (b.run first).run second :=
  List.foldl_append

theorem act_capacity {b : Bus} (sound : b.Sound) (deed : Deed) :
    (b.act deed).capacity = b.capacity := by
  cases deed with
  | subscribe name =>
    obtain ⟨channels, done, _⟩ := subscribe_eq sound name
    simp only [act, done]
  | publish name payload =>
    obtain ⟨channels, done, _⟩ := publish_eq sound name payload
    simp only [act, done]
  | receive number =>
    obtain ⟨move, _, done⟩ := b.receive_eq number
    simp only [act, done]
  | drop number => rfl

theorem Sound.act {b : Bus} (sound : b.Sound) (deed : Deed) : (b.act deed).Sound := by
  refine ⟨?_, by rw [act_capacity sound]; exact sound.fits⟩
  cases deed with
  | subscribe name =>
    obtain ⟨channels, done, _⟩ := subscribe_eq sound name
    simp only [Bus.act, done, sound.whole]
  | publish name payload =>
    obtain ⟨channels, done, _⟩ := publish_eq sound name payload
    simp only [Bus.act, done, sound.whole]
  | receive number =>
    obtain ⟨move, _, done⟩ := b.receive_eq number
    simp only [Bus.act, done, sound.whole]
  | drop number => exact sound.whole

/-! ### Who listens -/

/-- The channel of every subscriber by its number, with nothing for the dropped ones. -/
def audience (b : Bus) : List (Option String) := b.subscribers.map (Option.map Subscriber.channel)

theorem subscriberCount_eq {b : Bus} (sound : b.Sound) (channel : String) :
    b.subscriberCount channel = b.audience.countP (· = some channel) := by
  unfold subscriberCount audience
  rw [if_neg (ne_true_of_eq_false sound.whole), List.countP_map, List.countP_eq_length_filter]
  congr 2
  funext s
  cases s <;> simp

/-- The subscribers after one more deed. -/
def Deed.audience (seats : List (Option String)) : Deed → List (Option String)
  | subscribe channel => seats ++ [some channel]
  | publish _ _ => seats
  | receive _ => seats
  | drop number => seats.set number none

theorem audience_act {b : Bus} (sound : b.Sound) (deed : Deed) :
    (b.act deed).audience = deed.audience b.audience := by
  cases deed with
  | subscribe name =>
    obtain ⟨channels, done, _⟩ := subscribe_eq sound name
    simp only [act, done, audience, Deed.audience, List.map_append, List.map_cons, List.map_nil,
      Option.map_some]
  | publish name payload =>
    obtain ⟨channels, done, _⟩ := publish_eq sound name payload
    simp only [act, done, audience, Deed.audience]
  | receive number =>
    obtain ⟨move, kept, done⟩ := b.receive_eq number
    simp only [act, done, audience, Deed.audience]
    refine List.ext_getElem? fun i => ?_
    rw [List.getElem?_map, List.getElem?_modify, List.getElem?_map]
    rcases b.subscribers[i]? with _ | _ | s
    · rfl
    · split <;> rfl
    · split
      · exact congrArg (fun name => some (some name)) (kept s)
      · rfl
  | drop number =>
    refine List.ext_getElem? fun i => ?_
    simp only [act, drop, audience, Deed.audience, List.getElem?_map, List.getElem?_modify,
      List.getElem?_set, List.length_map]
    grind

theorem Sound.run {b : Bus} (sound : b.Sound) (deeds : List Deed) : (b.run deeds).Sound := by
  induction deeds generalizing b with
  | nil => exact sound
  | cons deed rest ih => exact ih (sound.act deed)

theorem run_concat (b : Bus) (deeds : List Deed) (deed : Deed) :
    b.run (deeds ++ [deed]) = (b.run deeds).act deed :=
  b.run_append deeds [deed]

theorem subscriptions_concat (deeds : List Deed) (deed : Deed) :
    subscriptions (deeds ++ [deed]) =
      subscriptions deeds + if deed.isSubscription then 1 else 0 := by
  unfold subscriptions
  rw [List.countP_append, List.countP_singleton]

theorem length_audience_run {b : Bus} (sound : b.Sound) (fresh : b.subscribers = [])
    (deeds : List Deed) : (b.run deeds).audience.length = subscriptions deeds := by
  induction deeds using List.reverseRecOn with
  | nil =>
    show (b.subscribers.map _).length = 0
    rw [fresh, List.map_nil, List.length_nil]
  | append_singleton deeds deed ih =>
    rw [run_concat, audience_act (sound.run deeds), subscriptions_concat, ← ih]
    cases deed with
    | subscribe name => exact List.length_append
    | publish name payload => rfl
    | receive number => rfl
    | drop number => exact List.length_set

theorem liveOn_concat {channel : String} {deeds : List Deed} {deed : Deed} {number : Nat} :
    LiveOn channel (deeds ++ [deed]) number ↔
      LiveOn channel deeds number ∧ deed ≠ .drop number ∨
        deed = .subscribe channel ∧ subscriptions deeds = number := by
  constructor
  · rintro ⟨front, back, split, counted, undropped⟩
    rcases List.eq_nil_or_concat' back with rfl | ⟨earlier, last, rfl⟩
    · obtain ⟨rfl, same⟩ := List.append_inj' split rfl
      exact .inr ⟨List.singleton_inj.mp same, counted⟩
    · rw [← List.cons_append, ← List.append_assoc] at split
      obtain ⟨rfl, same⟩ := List.append_inj' split rfl
      obtain rfl := List.singleton_inj.mp same
      rw [List.mem_append, List.mem_singleton, not_or] at undropped
      exact .inl ⟨⟨front, earlier, rfl, counted, undropped.1⟩, Ne.symm undropped.2⟩
  · rintro (⟨⟨front, back, rfl, counted, undropped⟩, other⟩ | ⟨rfl, counted⟩)
    · refine ⟨front, back ++ [deed], by rw [List.append_assoc, List.cons_append], counted, ?_⟩
      rw [List.mem_append, List.mem_singleton, not_or]
      exact ⟨undropped, Ne.symm other⟩
    · exact ⟨deeds, [], rfl, counted, List.not_mem_nil⟩

theorem getElem?_audience_run {b : Bus} (sound : b.Sound) (fresh : b.subscribers = [])
    (deeds : List Deed) (number : Nat) (channel : String) :
    (b.run deeds).audience[number]? = some (some channel) ↔ LiveOn channel deeds number := by
  induction deeds using List.reverseRecOn with
  | nil =>
    have nobody : b.audience = [] := congrArg (List.map _) fresh
    rw [run, List.foldl_nil, nobody]
    refine ⟨nofun, ?_⟩
    rintro ⟨front, back, split, _⟩
    exact (List.append_ne_nil_of_right_ne_nil _ (List.cons_ne_nil _ _) split.symm).elim
  | append_singleton deeds deed ih =>
    have length := length_audience_run sound fresh deeds
    rw [run_concat, audience_act (sound.run deeds), liveOn_concat, ← ih]
    cases deed with
    | subscribe name =>
      simp only [Deed.audience, List.getElem?_append, Deed.subscribe.injEq]
      grind
    | publish name payload => simp [Deed.audience]
    | receive other => simp [Deed.audience]
    | drop other =>
      simp only [Deed.audience, List.getElem?_set]
      grind

theorem countP_eq_ncard {α : Type} [DecidableEq α] (xs : List α) (x : α) :
    xs.countP (· = x) = {i : Nat | xs[i]? = some x}.ncard := by
  induction xs using List.reverseRecOn with
  | nil => simp
  | append_singleton xs y ih =>
    have finite : {i : Nat | xs[i]? = some x}.Finite :=
      (Set.finite_lt_nat xs.length).subset fun i found => (List.getElem?_eq_some_iff.mp found).1
    rw [List.countP_append, List.countP_singleton, ih]
    by_cases same : y = x
    · have grown : {i : Nat | (xs ++ [y])[i]? = some x} =
          insert xs.length {i : Nat | xs[i]? = some x} := by
        ext i
        simp only [Set.mem_ofPred_eq, Set.mem_insert_iff, List.getElem?_append]
        grind
      rw [grown, Set.ncard_insert_of_notMem (by simp) finite]
      simp [same]
    · have kept : {i : Nat | (xs ++ [y])[i]? = some x} = {i : Nat | xs[i]? = some x} := by
        ext i
        simp only [Set.mem_ofPred_eq, List.getElem?_append]
        grind
      rw [kept]
      simp [same]

/-! ### One subscriber -/

/-- Every ring holds the end of all that went through it. -/
def Filled (b : Bus) : Prop := ∀ channel, ∃ all, b.ringOf channel = .holding b.slots all

/-- The subscriber of this number listens to the channel and has yet to read these payloads. -/
def Serves (b : Bus) (number : Nat) (channel : String) (unread : Inbox) : Prop :=
  ∃ read, b.subscribers[number]? = some (some ⟨channel, read.length⟩) ∧
    b.ringOf channel = .holding b.slots (read ++ unread)

theorem slots_act {b : Bus} (sound : b.Sound) (deed : Deed) : (b.act deed).slots = b.slots := by
  unfold slots
  rw [act_capacity sound]

/-- Only a publication changes a ring. -/
theorem ringOf_act {b : Bus} (sound : b.Sound) (deed : Deed) (channel : String) :
    (b.act deed).ringOf channel =
      match deed.payloadOn? channel with
      | some payload => (b.ringOf channel).push b.slots payload
      | none => b.ringOf channel := by
  cases deed with
  | subscribe name =>
    obtain ⟨channels, done, same⟩ := subscribe_eq sound name
    simp only [act, done]
    exact same channel
  | publish name payload =>
    obtain ⟨channels, done, rings⟩ := publish_eq sound name payload
    simp only [act, done]
    rw [rings, Deed.payloadOn?]
    by_cases here : channel = name
    · rw [if_pos here, if_pos here.symm]
    · rw [if_neg here, if_neg (Ne.symm here)]
  | receive number =>
    obtain ⟨move, _, done⟩ := b.receive_eq number
    simp only [act, done]
    rfl
  | drop number => rfl

theorem Filled.act {b : Bus} (filled : b.Filled) (sound : b.Sound) (deed : Deed) :
    (b.act deed).Filled := by
  intro channel
  obtain ⟨all, holds⟩ := filled channel
  rw [ringOf_act sound, slots_act sound]
  cases deed.payloadOn? channel with
  | none => exact ⟨all, holds⟩
  | some payload =>
    refine ⟨all ++ [payload], ?_⟩
    dsimp only
    rw [holds, Ring.push_holding]

theorem receive_at {b : Bus} {number position : Nat} {channel : String}
    (seat : b.subscribers[number]? = some (some ⟨channel, position⟩)) :
    b.receive number =
      let ring := b.ringOf channel
      let unread := ring.published - position
      if unread = 0 then (b, .empty)
      else if b.slots < unread then
        (b.moveTo number (ring.published - b.slots), .lagged (unread - b.slots))
      else match ring.payload? position with
        | some payload => (b.moveTo number (position + 1), .payload payload)
        | none => (b, .empty) := by
  unfold receive
  rw [seat]
  rfl

/-- A reading is answered as the inbox says, and takes the subscriber on by so much. -/
theorem receive_of_serves {b : Bus} {number : Nat} {channel : String} {unread : Inbox}
    (serves : b.Serves number channel unread) :
    (b.receive number).2 = unread.answer b.slots ∧
      (b.receive number).1.Serves number channel
        (unread.drop (unread.answer b.slots).passed) := by
  obtain ⟨read, seat, holds⟩ := serves
  have moved : ∀ taken, taken ≤ unread.length →
      (b.moveTo number (read.length + taken)).Serves number channel (unread.drop taken) := by
    intro taken within
    refine ⟨read ++ unread.take taken, ?_, ?_⟩
    · simp [moveTo, seat, within]
    · rw [List.append_assoc, List.take_append_drop]
      exact holds
  have published : (b.ringOf channel).published = read.length + unread.length := by
    rw [holds]
    exact List.length_append
  have behind : (b.ringOf channel).published - read.length = unread.length := by omega
  rw [receive_at seat]
  dsimp only
  rw [behind]
  cases unread with
  | nil => exact ⟨rfl, read, seat, holds⟩
  | cons payload rest =>
    rw [if_neg (by simp)]
    simp only [Inbox.answer]
    split
    next far =>
      have target : (b.ringOf channel).published - b.slots =
          read.length + ((payload :: rest).length - b.slots) := by omega
      rw [target]
      exact ⟨rfl, moved _ (Nat.sub_le _ _)⟩
    next near =>
      have found : (b.ringOf channel).payload? read.length = some payload := by
        rw [holds, Ring.payload?_holding (by rw [List.length_append]; omega)]
        simp
      rw [found]
      exact ⟨rfl, moved 1 (Nat.succ_le_succ (Nat.zero_le _))⟩

/-- What is unread after a deed. -/
def Deed.unread (channel : String) (number slots : Nat) (unread : Inbox) (deed : Deed) : Inbox :=
  match deed.letter? channel number with
  | some (.arrival payload) => unread ++ [payload]
  | some .reading => unread.drop (unread.answer slots).passed
  | none => unread

theorem act_serves {b : Bus} (sound : b.Sound) {number : Nat} {channel : String} {unread : Inbox}
    (serves : b.Serves number channel unread) {deed : Deed} (kept : deed ≠ .drop number) :
    (b.act deed).Serves number channel (deed.unread channel number b.slots unread) := by
  obtain ⟨read, seat, holds⟩ := serves
  have rings := ringOf_act sound deed channel
  cases deed with
  | subscribe name =>
    obtain ⟨channels, done, _⟩ := subscribe_eq sound name
    refine ⟨read, ?_, by rw [rings, slots_act sound]; exact holds⟩
    have early : number < b.subscribers.length := (List.getElem?_eq_some_iff.mp seat).1
    simp only [act, done, List.getElem?_append_left early, seat]
  | publish name payload =>
    obtain ⟨channels, done, _⟩ := publish_eq sound name payload
    have still : (b.act (.publish name payload)).subscribers = b.subscribers := by
      simp only [act, done]
    simp only [Deed.payloadOn?] at rings
    simp only [Serves, still, Deed.unread, Deed.letter?, slots_act sound, rings]
    by_cases here : name = channel
    · simp only [here, if_true, holds, Ring.push_holding, List.append_assoc]
      exact ⟨read, seat, rfl⟩
    · simp only [here, if_false]
      exact ⟨read, seat, holds⟩
  | receive other =>
    by_cases mine : other = number
    · rw [mine]
      simp only [Deed.unread, Deed.letter?, if_true]
      exact (receive_of_serves ⟨read, seat, holds⟩).2
    · obtain ⟨move, _, done⟩ := b.receive_eq other
      simp only [Deed.unread, Deed.letter?, mine, if_false]
      refine ⟨read, ?_, by rw [rings, slots_act sound]; exact holds⟩
      simp only [act, done, List.getElem?_modify, mine, if_false, seat]
      rfl
  | drop other =>
    have mine : other ≠ number := fun same => kept (congrArg Deed.drop same)
    refine ⟨read, ?_, holds⟩
    simp only [act, drop, List.getElem?_modify, mine, if_false, seat]
    rfl

/-- Whatever else is done with the bus, a subscriber finds what its inbox says. -/
theorem run_serves {b : Bus} (sound : b.Sound) {number : Nat} {channel : String} {unread : Inbox}
    (serves : b.Serves number channel unread) {deeds : List Deed}
    (kept : .drop number ∉ deeds) :
    let letters := deeds.filterMap (Deed.letter? channel number)
    b.receipts number deeds = Inbox.answers b.slots unread letters ∧
      (b.run deeds).Serves number channel
        ((unread ++ Inbox.arrivals letters).drop
          (Received.passedAll (Inbox.answers b.slots unread letters))) := by
  induction deeds generalizing b unread with
  | nil =>
    refine ⟨rfl, ?_⟩
    rw [List.filterMap_nil]
    change b.Serves number channel (unread ++ [])
    rwa [List.append_nil]
  | cons deed rest ih =>
    rw [List.mem_cons, not_or] at kept
    have first := act_serves sound serves (Ne.symm kept.1)
    obtain ⟨answers, last⟩ := ih (sound.act deed) first kept.2
    rw [slots_act sound] at answers last
    have answered : deed = .receive number → (b.receive number).2 = unread.answer b.slots :=
      fun _ => (receive_of_serves serves).1
    simp only [receipts, answers]
    cases letter : deed.letter? channel number with
    | none =>
      have silent : deed ≠ .receive number := by
        rintro rfl
        simp [Deed.letter?] at letter
      simp only [Deed.unread, letter] at last
      rw [List.filterMap_cons_none letter, if_neg silent, Deed.unread, letter]
      exact ⟨rfl, last⟩
    | some what =>
      rw [List.filterMap_cons_some letter]
      cases what with
      | arrival payload =>
        have silent : deed ≠ .receive number := by
          rintro rfl
          simp [Deed.letter?] at letter
        simp only [Deed.unread, letter, List.append_assoc] at last
        rw [if_neg silent, Deed.unread, letter]
        exact ⟨rfl, last⟩
      | reading =>
        have mine : deed = .receive number := by
          cases deed <;> simp_all [Deed.letter?]
        simp only [Deed.unread, letter, Inbox.unread_reading, List.drop_drop] at last
        rw [if_pos mine, answered mine, Deed.unread, letter]
        exact ⟨rfl, last⟩

theorem sound_ofCapacity {capacity : Nat} (fits : RingFits capacity) :
    (ofCapacity capacity).Sound :=
  ⟨rfl, fits⟩

theorem filled_ofCapacity (capacity : Nat) : (ofCapacity capacity).Filled := by
  intro channel
  exact ⟨[], congrArg (Ring.mk 0) List.drop_nil.symm⟩

theorem Filled.run {b : Bus} (filled : b.Filled) (sound : b.Sound) (deeds : List Deed) :
    (b.run deeds).Filled := by
  induction deeds generalizing b with
  | nil => exact filled
  | cons deed rest ih => exact ih (filled.act sound deed) (sound.act deed)

theorem slots_run {b : Bus} (sound : b.Sound) (deeds : List Deed) :
    (b.run deeds).slots = b.slots := by
  induction deeds generalizing b with
  | nil => rfl
  | cons deed rest ih => exact (ih (sound.act deed)).trans (slots_act sound deed)

/-- A new subscriber has nothing to read. -/
theorem subscribe_serves {b : Bus} (sound : b.Sound) (filled : b.Filled) (channel : String) :
    (b.act (.subscribe channel)).Serves b.subscribers.length channel [] := by
  obtain ⟨all, holds⟩ := filled channel
  obtain ⟨channels, done, _⟩ := subscribe_eq sound channel
  refine ⟨all, ?_, ?_⟩
  · simp only [act, done, holds, List.getElem?_concat_length]
    rfl
  · rw [ringOf_act sound, slots_act sound, List.append_nil]
    exact holds

theorem arrivals_letters (channel : String) (number : Nat) (deeds : List Deed) :
    Inbox.arrivals (deeds.filterMap (Deed.letter? channel number)) =
      publishedOn channel deeds := by
  unfold Inbox.arrivals publishedOn
  rw [List.filterMap_filterMap]
  congr 1
  funext deed
  cases deed with
  | subscribe name => rfl
  | publish name payload =>
    simp only [Deed.letter?, Deed.payloadOn?]
    split <;> rfl
  | receive other =>
    simp only [Deed.letter?, Deed.payloadOn?]
    split <;> rfl
  | drop other => rfl

/-- What a subscriber to whom these payloads are due was told so far, and what it is told next. -/
structure Keeps (slots : Nat) (due : List Payload) (told : List Received) (next : Received) :
    Prop where
  within : Received.passedAll told ≤ due.length
  /-- A payload it was given is the first behind all it was given or has missed before. -/
  inOrder : ∀ i payload, told[i]? = some (.payload payload) →
    due[Received.passedAll (told.take i)]? = some payload
  empty_iff : next = .empty ↔ due.drop (Received.passedAll told) = []
  lagged_iff : ∀ missed, next = .lagged missed ↔
    slots < (due.drop (Received.passedAll told)).length ∧
      missed = (due.drop (Received.passedAll told)).length - slots
  payload_iff : ∀ payload, next = .payload payload ↔
    (due.drop (Received.passedAll told)).length ≤ slots ∧
      (due.drop (Received.passedAll told)).head? = some payload
  isOpen : next ≠ .noSubscriber

theorem Keeps.ofInbox (slots : Nat) (letters : List Letter) :
    Keeps slots (Inbox.arrivals letters) (Inbox.answers slots [] letters)
      (Inbox.answer slots ((Inbox.arrivals letters).drop
        (Received.passedAll (Inbox.answers slots [] letters)))) := by
  obtain ⟨empty, lagged, payload, isOpen⟩ := Inbox.answer_spec slots
    ((Inbox.arrivals letters).drop (Received.passedAll (Inbox.answers slots [] letters)))
  exact ⟨Inbox.passed_answers_le slots [] letters, fun _ _ => Inbox.payload_of_answers, empty,
    lagged, payload, isOpen⟩

/-- What a subscriber is told depends on its own channel and its own readings only, and leaves out
nothing but what it is told to have missed; publishing succeeds at any time, and the subscribers of
a channel are those that were not dropped. -/
theorem subscribers_hear_their_channel {capacity : Nat} (fits : capacity < capacityBound)
    (deeds : List Deed) :
    let b := (ofCapacity capacity).run deeds
    (∃ k, b.slots = 2 ^ k ∧ max capacity 1 ≤ 2 ^ k ∧ 2 ^ k < 2 * max capacity 1) ∧
      (∀ channel, (∀ payload, (b.publish channel payload).2 = .ok ()) ∧
        (b.subscribe channel).2 = .ok (subscriptions deeds) ∧
        b.subscriberCount channel = {number | LiveOn channel deeds number}.ncard) ∧
      ∀ front channel back, deeds = front ++ .subscribe channel :: back →
        .drop (subscriptions front) ∉ back →
        let number := subscriptions front
        let told := ((ofCapacity capacity).run (front ++ [.subscribe channel])).receipts number back
        told = Inbox.answers b.slots [] (back.filterMap (Deed.letter? channel number)) ∧
          Keeps b.slots (publishedOn channel back) told (b.receive number).2 := by
  intro b
  have opening := sound_ofCapacity fits
  have sound : b.Sound := opening.run deeds
  have seats : ∀ deeds, ((ofCapacity capacity).run deeds).subscribers.length =
      subscriptions deeds := by
    intro deeds
    rw [← length_audience_run opening rfl deeds, audience, List.length_map]
  have slots : b.slots = (ofCapacity capacity).slots := slots_run opening deeds
  refine ⟨?_, ?_, ?_⟩
  · exact ⟨_, slots, le_slots (ofCapacity capacity), slots_lt (ofCapacity capacity)⟩
  · intro channel
    refine ⟨?_, ?_, ?_⟩
    · intro payload
      obtain ⟨channels, done, _⟩ := publish_eq sound channel payload
      rw [done]
    · obtain ⟨channels, done, _⟩ := subscribe_eq sound channel
      rw [done, ← seats deeds]
    · rw [subscriberCount_eq sound, countP_eq_ncard]
      congr 1
      ext number
      exact getElem?_audience_run opening rfl deeds number channel
  · intro front channel back split undropped number told
    let before := (ofCapacity capacity).run front
    let after := (ofCapacity capacity).run (front ++ [.subscribe channel])
    have subscribed : after = before.act (.subscribe channel) := run_concat _ front _
    have runs : b = after.run back := by
      rw [← run_append, List.append_assoc, List.singleton_append, ← split]
    have serves : after.Serves number channel [] := by
      have seated := subscribe_serves (opening.run front)
        ((filled_ofCapacity capacity).run opening front) channel
      rwa [seats front, ← subscribed] at seated
    have kept : b.slots = after.slots := slots.trans (slots_run opening _).symm
    obtain ⟨heard, last⟩ := run_serves (opening.run _) serves undropped
    rw [← kept] at heard last
    rw [← runs] at last
    refine ⟨heard, ?_⟩
    have next := (receive_of_serves last).1
    have keeps := Keeps.ofInbox b.slots (back.filterMap (Deed.letter? channel number))
    rw [arrivals_letters] at keeps
    rw [List.nil_append, arrivals_letters] at next
    rw [next]
    show Keeps b.slots _ told _
    rw [show told = _ from heard]
    exact keeps

/-- Four slots, six payloads on one channel and one on another, and a subscriber dropped. -/
def busyMorning : List Deed :=
  [.subscribe "x", .subscribe "a", .publish "a" [0], .receive 1, .publish "b" [9], .publish "a" [1],
    .publish "a" [2], .drop 0, .publish "a" [3], .publish "a" [4], .publish "a" [5]]

theorem slow_reader_misses_the_oldest :
    ((ofCapacity 3).run busyMorning).slots = 4 ∧
      ((ofCapacity 3).run busyMorning).subscriberCount "a" =
        {number | LiveOn "a" busyMorning number}.ncard ∧
      (((ofCapacity 3).run busyMorning).receive 1).2 = .lagged 1 := by
  obtain ⟨_, channels, subscribers⟩ :=
    subscribers_hear_their_channel (show 3 < capacityBound by decide) busyMorning
  have slots : ((ofCapacity 3).run busyMorning).slots = 4 := by decide +kernel
  obtain ⟨_, keeps⟩ := subscribers [.subscribe "x"] "a" _ rfl (by decide)
  refine ⟨slots, (channels "a").2.2, ?_⟩
  rw [slots] at keeps
  exact (keeps.lagged_iff 1).mpr (by decide +kernel)

end Bus

end LobbyPlacement
