import LobbyPlacement.Proofs.Announcement
import LobbyPlacement.Proofs.Placement.Agreement
import LobbyPlacement.Proofs.Placement.Books

/-!
# Announcements match writes

What is seen of a request from outside are the entries it leaves in the books of an observed desk.
`Shown` says which entries one move leaves, `Progress.Shows` which ones a whole request has left
when it stands at some point; `announcements_match_writes` puts them together for all runs.
-/

namespace LobbyPlacement

open Text.Utf8 (Bytes)

inductive Act
  | wrote (lobby server : String)
  | published (channel : String) (payload : Bytes)
deriving DecidableEq

namespace Act

def ofBooks (writes : List (String × String)) (calls : List (String × Bytes)) : List Act :=
  writes.map (fun write => .wrote write.1 write.2) ++
    calls.map fun call => .published call.1 call.2

def call? : Act → Option (String × Bytes)
  | wrote _ _ => none
  | published channel payload => some (channel, payload)

theorem filterMap_ofBooks (writes : List (String × String)) (calls : List (String × Bytes)) :
    (ofBooks writes calls).filterMap call? = calls := by
  simp [ofBooks, List.filterMap_map, Function.comp_def, call?]

end Act

namespace Effect

/-- The writes that an effect has made if this is its reply. -/
def writes : (e : Effect) → e.Reply → List (String × String)
  | store call, reply => call.committed reply
  | announce _, _ => []

def calls (channel : String) : Effect → List (String × Bytes)
  | store _ => []
  | announce a => [(channel, a.encode)]

end Effect

/-- What one move of a request shows: a write, the announcement of an earlier one, or nothing. -/
inductive Shown (channel lobby : String) : Phase → List Act → Progress → Prop
  | nothing {phase : Phase} {progress : Progress}
      (before : (Progress.waiting phase).hasWritten = false) (after : progress.hasWritten = false) :
      Shown channel lobby phase [] progress
  | write {phase : Phase} {server : String}
      (before : (Progress.waiting phase).hasWritten = false) :
      Shown channel lobby phase [.wrote lobby server] (.waiting (.announcing server))
  | announcement {server : String} {progress : Progress}
      (ended : progress = .crashed ∨ progress = .answered (.ok (.created server))) :
      Shown channel lobby (.announcing server)
        [.published channel (⟨lobby, server⟩ : Announcement).encode] progress

/-- Whatever its effect brings back, a request shows no more than its write or its announcement. -/
theorem resume_shown (rules : Rules) (lobby : String) (phase : Phase)
    (reply : (phase.effect lobby).Reply) :
    Shown rules.channel lobby phase
      (Act.ofBooks ((phase.effect lobby).writes reply) ((phase.effect lobby).calls rules.channel))
      (Placement.resume rules lobby phase reply).progress := by
  cases phase with
  | looking => rcases reply with _ | _ | _ <;> exact .nothing rfl rfl
  | listing => exact .nothing rfl (Progress.afterTally_not_written rules _)
  | counting census => exact .nothing rfl (Progress.afterTally_not_written rules _)
  | claiming server =>
    rcases reply with _ | _ | _
    · exact .nothing rfl rfl
    · exact .nothing rfl rfl
    · exact .write rfl
  | overwriting server =>
    rcases reply with _ | _
    · exact .nothing rfl rfl
    · exact .write rfl
  | adopting => rcases reply with _ | _ | _ <;> exact .nothing rfl rfl
  | announcing server =>
    have ended : (Placement.resume rules lobby (.announcing server) reply).progress = .crashed ∨
        (Placement.resume rules lobby (.announcing server) reply).progress =
          .answered (.ok (.created server)) := by
      cases reply with
      | confirmed => exact .inr rfl
      | unconfirmed => exact .inr rfl
      | crashed => exact .inl rfl
    have seen : Act.ofBooks ((Effect.announce ⟨lobby, server⟩).writes reply)
        ((Effect.announce ⟨lobby, server⟩).calls rules.channel) =
          [.published rules.channel (⟨lobby, server⟩ : Announcement).encode] := by
      simp only [Act.ofBooks, Effect.writes, Effect.calls, List.map_nil, List.map_cons,
        List.nil_append]
    change Shown _ _ _ (Act.ofBooks ((Effect.announce ⟨lobby, server⟩).writes reply)
      ((Effect.announce ⟨lobby, server⟩).calls rules.channel)) _
    rw [seen]
    exact .announcement ended

namespace Progress

/-- What a request has shown in all when it stands here: its write once it has written, and then one
announcement, of just what it wrote, once it has gone on from there. -/
def Shows (channel lobby : String) : Progress → List Act → Prop
  | .waiting (.announcing server), acts => acts = [.wrote lobby server]
  | .answered (.ok (.created server)), acts => ∃ payload,
      acts = [.wrote lobby server, .published channel payload] ∧
        Announcement.decode payload = .ok ⟨lobby, server⟩
  | .crashed, acts => ∃ server payload,
      acts = [.wrote lobby server, .published channel payload] ∧
        Announcement.decode payload = .ok ⟨lobby, server⟩
  | _, acts => acts = []

theorem shows_iff_of_not_written {p : Progress} (unwritten : p.hasWritten = false)
    {channel lobby : String} {acts : List Act} : p.Shows channel lobby acts ↔ acts = [] := by
  unfold hasWritten at unwritten
  unfold Shows
  split <;> simp_all

theorem shows_append {channel lobby : String} {phase : Phase} {acts more : List Act}
    {progress : Progress} (shows : (Progress.waiting phase).Shows channel lobby acts)
    (shown : Shown channel lobby phase more progress) :
    progress.Shows channel lobby (acts ++ more) := by
  cases shown with
  | nothing before after =>
    rw [shows_iff_of_not_written before] at shows
    rw [shows_iff_of_not_written after, shows]
    rfl
  | write before =>
    rw [shows_iff_of_not_written before] at shows
    rw [shows]
    rfl
  | announcement ended =>
    have written : acts = [.wrote lobby _] := shows
    rw [written]
    rcases ended with rfl | rfl
    · exact ⟨_, _, rfl, Announcement.decode_encode _⟩
    · exact ⟨_, rfl, Announcement.decode_encode _⟩

end Progress

def Progress.hasAnnounced : Progress → Bool
  | .answered (.ok (.created _)) => true
  | .crashed => true
  | _ => false

theorem Progress.hasWritten_of_hasAnnounced {p : Progress} (announced : p.hasAnnounced = true) :
    p.hasWritten = true := by
  unfold hasAnnounced at announced
  split at announced
  · rfl
  · rfl
  · cases announced

theorem Progress.hasAnnounced_of_not_written {p : Progress} (unwritten : p.hasWritten = false) :
    p.hasAnnounced = false := by
  cases announced : p.hasAnnounced with
  | false => rfl
  | true => exact (hasWritten_of_hasAnnounced announced).symm.trans unwritten

theorem Shown.call {channel lobby : String} {phase : Phase} {acts : List Act} {progress : Progress}
    (shown : Shown channel lobby phase acts progress) :
    (acts.filterMap Act.call? = [] ∧ progress.hasAnnounced = false) ∨
      ∃ server, phase = .announcing server ∧ progress.hasAnnounced = true ∧
        acts.filterMap Act.call? = [(channel, (⟨lobby, server⟩ : Announcement).encode)] := by
  cases shown with
  | nothing before after => exact .inl ⟨rfl, Progress.hasAnnounced_of_not_written after⟩
  | write before => exact .inl ⟨rfl, rfl⟩
  | @announcement server _ ended =>
    refine .inr ⟨server, rfl, ?_, rfl⟩
    rcases ended with rfl | rfl <;> rfl

theorem Shown.of_announcing {channel lobby server : String} {acts : List Act} {progress : Progress}
    (shown : Shown channel lobby (.announcing server) acts progress) :
    acts = [.published channel (⟨lobby, server⟩ : Announcement).encode] := by
  cases shown with
  | nothing before => cases before
  | write before => cases before
  | announcement => rfl

/-- A call of the publisher that announces this lobby. -/
def announces (lobby : String) (call : String × Bytes) : Bool :=
  match Announcement.decode call.2 with
  | .ok a => a.lobby = lobby
  | .error _ => false

theorem announces_encode (lobby channel : String) (a : Announcement) :
    announces lobby (channel, a.encode) = decide (a.lobby = lobby) := by
  rw [announces, Announcement.decode_encode]

namespace Desk

variable {σ π : Type}

/-- What was seen between two moments of a desk: the new entries in its books. -/
def seen (before after : Desk (Audited σ) (Watched π)) : List Act :=
  Act.ofBooks (after.store.writes.drop before.store.writes.length)
    (after.publisher.calls.drop before.publisher.calls.length)

theorem seen_eq {before after : Desk (Audited σ) (Watched π)} {writes : List (String × String)}
    {calls : List (String × Bytes)} (written : after.store.writes = before.store.writes ++ writes)
    (called : after.publisher.calls = before.publisher.calls ++ calls) :
    before.seen after = Act.ofBooks writes calls := by
  rw [seen, written, called, List.drop_left, List.drop_left]

theorem seen_nothing {before after : Desk (Audited σ) (Watched π)}
    (written : after.store.writes = before.store.writes)
    (called : after.publisher.calls = before.publisher.calls) : before.seen after = [] := by
  rw [seen, written, called, List.drop_length, List.drop_length]
  rfl

variable [Store σ] [Publisher π]

theorem carryOut_books (d : Desk (Audited σ) (Watched π)) (e : Effect) :
    (d.carryOut e).1.store.writes = d.store.writes ++ e.writes (d.carryOut e).2 ∧
      (d.carryOut e).1.publisher.calls = d.publisher.calls ++ e.calls d.rules.channel := by
  cases e with
  | store call => exact ⟨rfl, (List.append_nil _).symm⟩
  | announce a =>
    have kept : (d.carryOut (.announce a)).1.store = d.store := (announce_frame d a).2
    have called := congrArg Watched.calls (announce_publisher d a)
    exact ⟨(congrArg Audited.writes kept).trans (List.append_nil _).symm, called⟩

theorem step_books (d : Desk (Audited σ) (Watched π)) (t : Ticket) :
    (d.step t).1.store.writes = d.store.writes ++
        (t.phase.effect t.lobby).writes (d.carryOut (t.phase.effect t.lobby)).2 ∧
      (d.step t).1.publisher.calls =
        d.publisher.calls ++ (t.phase.effect t.lobby).calls d.rules.channel := by
  simp only [step, recordAll_store, recordAll_publisher]
  exact carryOut_books d _

theorem step_shown (d : Desk (Audited σ) (Watched π)) (t : Ticket) :
    Shown d.rules.channel t.lobby t.phase (d.seen (d.step t).1) (d.step t).2 := by
  obtain ⟨written, called⟩ := step_books d t
  rw [seen_eq written called]
  have shown := resume_shown d.rules t.lobby t.phase (d.carryOut (t.phase.effect t.lobby)).2
  simpa only [step, carryOut_rules] using shown

end Desk

namespace Hall

variable {σ π : Type} [Store σ] [Ledger σ] [Publisher π]

def acts (h : Hall (Audited σ) (Watched π)) (e : Event (Ledger.Weather σ)) : List Act :=
  h.desk.seen (h.step e).desk

/-- What is seen of one request in a run. -/
def actsOf (h : Hall (Audited σ) (Watched π)) (number : Nat) :
    List (Event (Ledger.Weather σ)) → List Act
  | [] => []
  | .advance n :: rest =>
    (if n = number then h.acts (.advance n) else []) ++ (h.step (.advance n)).actsOf number rest
  | e :: rest => (h.step e).actsOf number rest

/-- What an event shows, and what it does to the requests. -/
inductive Seen {ω : Type} (h : Hall (Audited σ) (Watched π)) :
    Event ω → List Act → List Seat → Prop
  | idle (e : Event ω) : Seen h e [] h.seats
  | entered (lobby : String) (started : Nat) :
      Seen h (.enter lobby) [] (h.seats ++ [⟨lobby, started, (Placement.start lobby).progress⟩])
  | moved {number : Nat} {lobby : String} {started : Nat} {phase : Phase} {acts : List Act}
      {progress : Progress} (seated : h.seats[number]? = some ⟨lobby, started, .waiting phase⟩)
      (shown : Shown h.desk.rules.channel lobby phase acts progress) :
      Seen h (.advance number) acts (h.seats.set number ⟨lobby, started, progress⟩)

theorem step_quiet (h : Hall (Audited σ) (Watched π)) {e : Event (Ledger.Weather σ)}
    (unmoved : ∀ number, e ≠ .advance number) :
    (h.step e).desk.store.writes = h.desk.store.writes ∧
      (h.step e).desk.publisher.calls = h.desk.publisher.calls := by
  cases e with
  | enter lobby =>
    exact ⟨congrArg Audited.writes (Desk.recordAll_store ..),
      congrArg Watched.calls (Desk.recordAll_publisher ..)⟩
  | advance number => exact (unmoved number rfl).elim
  | glance lobby =>
    show (h.desk.lookup lobby).1.store.writes = _ ∧ (h.desk.lookup lobby).1.publisher.calls = _
    unfold Desk.lookup
    cases Placement.checkLobby lobby with
    | error fault => exact ⟨rfl, rfl⟩
    | ok => exact ⟨List.append_nil _, rfl⟩
  | weather w => exact ⟨rfl, rfl⟩
  | elapse ms => exact ⟨rfl, rfl⟩

theorem acts_quiet (h : Hall (Audited σ) (Watched π)) {e : Event (Ledger.Weather σ)}
    (unmoved : ∀ number, e ≠ .advance number) : h.acts e = [] :=
  Desk.seen_nothing (h.step_quiet unmoved).1 (h.step_quiet unmoved).2

theorem step_seen (h : Hall (Audited σ) (Watched π)) (e : Event (Ledger.Weather σ)) :
    Seen h e (h.acts e) (h.step e).seats := by
  cases e with
  | advance number =>
    show Seen h _ (h.desk.seen (h.advance number).desk) (h.advance number).seats
    rcases h.advance_cases number with ⟨lobby, started, phase, seated⟩ | same
    · rw [advance_eq seated]
      exact .moved seated (h.desk.step_shown ⟨lobby, started, phase⟩)
    · rw [same, Desk.seen_nothing rfl rfl]
      exact .idle _
  | enter lobby =>
    rw [h.acts_quiet fun _ same => by cases same]
    exact .entered lobby h.desk.now
  | glance lobby | weather w | elapse ms =>
    rw [h.acts_quiet fun _ same => by cases same]
    exact .idle _

theorem acts_announcing (h : Hall (Audited σ) (Watched π)) {number : Nat} {lobby : String}
    {started : Nat} {server : String}
    (seated : h.seats[number]? = some ⟨lobby, started, .waiting (.announcing server)⟩) :
    h.acts (.advance number) =
      [.published h.desk.rules.channel (⟨lobby, server⟩ : Announcement).encode] := by
  show h.desk.seen (h.advance number).desk = _
  rw [advance_eq seated]
  exact (h.desk.step_shown ⟨lobby, started, .announcing server⟩).of_announcing

theorem step_calls (h : Hall (Audited σ) (Watched π)) (e : Event (Ledger.Weather σ)) :
    (h.step e).desk.publisher.calls =
      h.desk.publisher.calls ++ (h.acts e).filterMap Act.call? := by
  by_cases moved : ∃ number, e = .advance number
  · obtain ⟨number, rfl⟩ := moved
    show (h.advance number).desk.publisher.calls =
      _ ++ (h.desk.seen (h.advance number).desk).filterMap _
    rcases h.advance_cases number with ⟨lobby, started, phase, seated⟩ | same
    · obtain ⟨written, called⟩ := h.desk.step_books ⟨lobby, started, phase⟩
      rw [advance_eq seated, Desk.seen_eq written called, Act.filterMap_ofBooks]
      exact called
    · rw [same, Desk.seen_nothing rfl rfl]
      exact (List.append_nil _).symm
  · have unmoved : ∀ number, e ≠ .advance number := fun number same => moved ⟨number, same⟩
    rw [h.acts_quiet unmoved, (h.step_quiet unmoved).2]
    exact (List.append_nil _).symm

theorem acts_length_le_one (h : Hall (Audited σ) (Watched π)) (e : Event (Ledger.Weather σ)) :
    (h.acts e).length ≤ 1 := by
  have seen := h.step_seen e
  generalize h.acts e = acts at seen ⊢
  generalize (h.step e).seats = seats at seen
  cases seen with
  | idle | entered => exact Nat.zero_le _
  | moved seated shown =>
    cases shown with
    | nothing => exact Nat.zero_le _
    | write | announcement => exact Nat.le_refl _

/-! ### One request in a run -/

theorem actsOf_concat (h : Hall (Audited σ) (Watched π)) (number : Nat)
    (before : List (Event (Ledger.Weather σ))) (e : Event (Ledger.Weather σ)) :
    h.actsOf number (before ++ [e]) =
      h.actsOf number before ++ (h.run before).actsOf number [e] := by
  induction before generalizing h with
  | nil => rfl
  | cons first rest ih =>
    have later := ih (h.step first)
    cases first with
    | advance n =>
      simp only [List.cons_append, actsOf, later, List.append_assoc]
      rfl
    | enter _ | glance _ | weather _ | elapse _ => exact later

/-- This is what was seen of the request with this number, which may not have begun. -/
def Showing (h : Hall (Audited σ) (Watched π)) (number : Nat) (acts : List Act) : Prop :=
  match h.seats[number]? with
  | some seat => seat.progress.Shows h.desk.rules.channel seat.lobby acts
  | none => acts = []

theorem showing_step {h : Hall (Audited σ) (Watched π)} {number : Nat} {acts : List Act}
    (showing : h.Showing number acts) (e : Event (Ledger.Weather σ)) :
    (h.step e).Showing number (acts ++ h.actsOf number [e]) := by
  have seen := h.step_seen e
  unfold Showing at showing ⊢
  rw [step_rules]
  generalize more_eq : h.acts e = more at seen
  generalize (h.step e).seats = seats at seen ⊢
  cases seen with
  | idle =>
    have nothing : h.actsOf number [e] = [] := by
      cases e with
      | advance n => simp [actsOf, more_eq]
      | enter _ | glance _ | weather _ | elapse _ => rfl
    rw [nothing, List.append_nil]
    exact showing
  | entered lobby started =>
    have nothing : h.actsOf number [.enter lobby] = [] := rfl
    rw [nothing, List.append_nil]
    cases found : h.seats[number]? with
    | some seat =>
      rw [found] at showing
      rw [List.getElem?_append_left (List.getElem?_eq_some_iff.mp found).1, found]
      exact showing
    | none =>
      -- The number may be that of the request that begins now, which has shown nothing either.
      rw [found] at showing
      rw [List.getElem?_append_right (List.getElem?_eq_none_iff.mp found)]
      cases number - h.seats.length with
      | zero =>
        exact (Progress.shows_iff_of_not_written (Progress.start_not_written lobby)).mpr showing
      | succ _ => exact showing
  | @moved n lobby started phase _ progress seated shown =>
    have mine : h.actsOf number [.advance n] = if n = number then more else [] := by
      simp [actsOf, more_eq]
    rw [mine]
    by_cases same : n = number
    · subst same
      rw [seated] at showing
      rw [List.getElem?_set_self (List.getElem?_eq_some_iff.mp seated).1, if_pos rfl]
      exact Progress.shows_append showing shown
    · rw [List.getElem?_set_ne same, if_neg same, List.append_nil]
      exact showing

theorem showing_run (d : Desk σ π) (number : Nat) (events : List (Event (Ledger.Weather σ))) :
    ((atDesk d.observed).run events).Showing number ((atDesk d.observed).actsOf number events) := by
  induction events using List.reverseRecOn with
  | nil => rfl
  | append_singleton before e ih =>
    rw [run_concat, actsOf_concat]
    exact showing_step ih e

/-! ### All calls in a run -/

omit [Store σ] [Ledger σ] [Publisher π] in
theorem countOf_hasAnnounced_le (h : Hall σ π) (lobby : String) :
    h.countOf lobby Progress.hasAnnounced ≤ h.countOf lobby Progress.hasWritten := by
  refine List.countP_mono_left fun seat _ announced => ?_
  simp only [Bool.and_eq_true] at announced ⊢
  exact ⟨announced.1, Progress.hasWritten_of_hasAnnounced announced.2⟩

/-- Every call announces what is stored, and the calls for a lobby are as many as the requests that
have announced it. -/
structure Told (h : Hall (Audited σ) (Watched π)) : Prop where
  stored : ∀ call ∈ h.desk.publisher.calls, ∃ a : Announcement,
    call = (h.desk.rules.channel, a.encode) ∧ h.table.value? a.lobby = some a.server
  counted : ∀ lobby, h.desk.publisher.calls.countP (announces lobby) =
    h.countOf lobby Progress.hasAnnounced

/-- An event calls the publisher once, for a request that was about to announce, or not at all. -/
theorem step_calls_cases (h : Hall (Audited σ) (Watched π)) (e : Event (Ledger.Weather σ)) :
    ((h.step e).desk.publisher.calls = h.desk.publisher.calls ∧
        ∀ lobby, (h.step e).countOf lobby Progress.hasAnnounced =
          h.countOf lobby Progress.hasAnnounced) ∨
      ∃ (a : Announcement) (started : Nat),
        ⟨a.lobby, started, .waiting (.announcing a.server)⟩ ∈ h.seats ∧
        (h.step e).desk.publisher.calls =
          h.desk.publisher.calls ++ [(h.desk.rules.channel, a.encode)] ∧
        ∀ lobby, (h.step e).countOf lobby Progress.hasAnnounced =
          h.countOf lobby Progress.hasAnnounced + if a.lobby = lobby then 1 else 0 := by
  have seen := h.step_seen e
  rw [h.step_calls e]
  unfold countOf
  generalize h.acts e = acts at seen ⊢
  generalize (h.step e).seats = seats at seen ⊢
  cases seen with
  | idle => exact .inl ⟨List.append_nil _, fun _ => rfl⟩
  | entered lobby started =>
    have silent := Progress.hasAnnounced_of_not_written (Progress.start_not_written lobby)
    exact .inl ⟨List.append_nil _, fun _ => by simp [silent]⟩
  | @moved number lobby started phase _ progress seated shown =>
    have replaced := fun other => countP_set_add
      (p := fun seat : Seat => seat.lobby = other && seat.progress.hasAnnounced) seated
      ⟨lobby, started, progress⟩
    have fresh : (Progress.waiting phase).hasAnnounced = false := rfl
    simp only [fresh, Bool.and_false, Bool.false_eq_true, if_false, Nat.add_zero] at replaced
    rcases shown.call with ⟨silent, unannounced⟩ | ⟨server, rfl, announced, call⟩
    · refine .inl ⟨by rw [silent, List.append_nil], fun other => ?_⟩
      simpa [unannounced] using replaced other
    · refine .inr ⟨⟨lobby, server⟩, started, List.mem_of_getElem? seated, by rw [call],
        fun other => ?_⟩
      simpa [announced] using replaced other

theorem told_step {origin : Table} {h : Hall (Audited σ) (Watched π)}
    (agreed : Agreed origin h) (told : Told h) (e : Event (Ledger.Weather σ)) :
    Told (h.step e) := by
  have grows := agreed.extends_step e
  have stored : ∀ call ∈ h.desk.publisher.calls, ∃ a : Announcement,
      call = ((h.step e).desk.rules.channel, a.encode) ∧
        (h.step e).table.value? a.lobby = some a.server := by
    intro call early
    obtain ⟨a, same, found⟩ := told.stored call early
    rw [step_rules]
    exact ⟨a, same, grows _ _ found⟩
  rcases h.step_calls_cases e with ⟨same, counts⟩ | ⟨a, started, seated, called, counts⟩
  · refine ⟨by rwa [same], fun lobby => ?_⟩
    rw [same, counts, told.counted]
  · refine ⟨?_, fun lobby => ?_⟩
    · rw [called]
      intro call member
      rcases List.mem_append.mp member with early | late
      · exact stored call early
      · have agrees : h.table.value? a.lobby = some a.server := agreed.seats _ seated
        refine ⟨a, ?_, grows _ _ agrees⟩
        rw [step_rules]
        exact List.mem_singleton.mp late
    · rw [called, counts, List.countP_append, told.counted, List.countP_singleton,
        announces_encode]
      simp

theorem told_run {d : Desk σ π} (mode : d.rules.mode = .createIfAbsent)
    (events : List (Event (Ledger.Weather σ))) :
    Agreed (Ledger.table d.store) ((atDesk d.observed).run events) ∧
      Told ((atDesk d.observed).run events) := by
  have agreed : Agreed (Ledger.table d.store) (atDesk d.observed) :=
    agreed_atDesk (d := d.observed) mode
  have told : Told (atDesk d.observed) := ⟨nofun, fun _ => rfl⟩
  exact run_kept (P := fun h => Agreed (Ledger.table d.store) h ∧ Told h)
    (fun h e ⟨agreed, told⟩ => ⟨agreed_step h e agreed, told_step agreed told e⟩)
    ⟨agreed, told⟩ events

/-- Requests in either mode, in any order, at a store with any faults and before any publisher. The
books change nothing. Of every request one sees its write and then, in a later step, one call of the
publisher on the configured channel whose payload decodes to what it wrote and answers, or nothing
at all; nothing else calls the publisher, and a request that has written calls it next. Where
nothing is overwritten, every lobby is announced at most once, with the server that is stored then
and ever after. -/
theorem announcements_match_writes (d : Desk σ π) (events : List (Event (Ledger.Weather σ))) :
    let h := (atDesk d.observed).run events
    h.plain = (atDesk d).run events ∧
    (∀ number (seat : Seat), h.seats[number]? = some seat →
      seat.progress.Shows d.rules.channel seat.lobby ((atDesk d.observed).actsOf number events)) ∧
    (∀ e, (h.acts e).length ≤ 1 ∧ ((∀ number, e ≠ .advance number) → h.acts e = [])) ∧
    (∀ number lobby started server,
      h.seats[number]? = some ⟨lobby, started, .waiting (.announcing server)⟩ →
      ∃ payload, h.acts (.advance number) = [.published d.rules.channel payload] ∧
        Announcement.decode payload = .ok ⟨lobby, server⟩) ∧
    (d.rules.mode = .createIfAbsent →
      (∀ lobby, h.desk.publisher.calls.countP (announces lobby) ≤ 1) ∧
      ∀ call ∈ h.desk.publisher.calls, ∃ a : Announcement,
        call.1 = d.rules.channel ∧ Announcement.decode call.2 = .ok a ∧
        ∀ later, (h.run later).table.value? a.lobby = some a.server) := by
  intro h
  have rules : h.desk.rules = d.rules := run_rules (atDesk d.observed) events
  refine ⟨plain_run (atDesk d.observed) events, ?_,
    fun e => ⟨h.acts_length_le_one e, h.acts_quiet⟩, ?_, ?_⟩
  · intro number seat seated
    have showing : h.Showing number ((atDesk d.observed).actsOf number events) :=
      showing_run d number events
    rw [Showing, seated, rules] at showing
    exact showing
  · intro number lobby started server seated
    rw [h.acts_announcing seated, rules]
    exact ⟨_, rfl, Announcement.decode_encode _⟩
  · intro mode
    obtain ⟨agreed, told⟩ := told_run mode events
    refine ⟨fun lobby => ?_, fun call member => ?_⟩
    · rw [told.counted]
      exact Nat.le_trans (countOf_hasAnnounced_le h lobby) (agreed.countOf_hasWritten_le_one lobby)
    · obtain ⟨a, same, found⟩ := told.stored call member
      rw [same, rules]
      dsimp only
      exact ⟨a, rfl, Announcement.decode_encode a, fun later => agreed.extends_run later _ _ found⟩

/-- Two requests that race for a lobby call the publisher once, for the server that is stored. -/
theorem race_is_announced_once :
    raceDesk.rules.mode = .createIfAbsent ∧
      (∀ lobby, ((atDesk raceDesk.observed).run race).desk.publisher.calls.countP
        (announces lobby) ≤ 1) ∧
      ((atDesk raceDesk.observed).run race).desk.publisher.calls =
        [("game_servers", (⟨"L", "A"⟩ : Announcement).encode)] ∧
      ((atDesk raceDesk.observed).run race).table.value? "L" = some "A" :=
  ⟨rfl, ((announcements_match_writes raceDesk race).2.2.2.2 rfl).1, by decide +kernel,
    by decide +kernel⟩

end Hall

end LobbyPlacement
