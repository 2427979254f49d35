import LobbyPlacement.Proofs.Placement.Tally
import LobbyPlacement.Proofs.Store.Overheard
import LobbyPlacement.Store.Scripted
import Mathlib.Data.List.Basic

/-!
# What a count asks, and what it makes of the answers

Against a store that may answer anything, a count asks for one listing and then reads the listed
keys one by one, in their order; the first fault it meets is its result. `Account` lists what it may
have asked together with the result, `Tally.Heard` says where a count stands after what it has asked
so far, and `Census.count_account` is what follows for a whole count.
-/

namespace LobbyPlacement

namespace Load

/-- The loads that some reads amount to. A server counts on its first place, however often it is
named; a read of nothing or of another server counts nowhere. -/
def tally (servers : List String) (answers : List (Option String)) : List Load :=
  servers.mapIdx fun place server =>
    ⟨server, if servers.idxOf server = place then answers.count (some server) else 0⟩

theorem tally_nil (servers : List String) : tally servers [] = zero servers := by
  refine List.ext_getElem? fun place => ?_
  simp [tally, zero, List.getElem?_mapIdx]

/-- Crediting a server changes the load on its first place alone. -/
theorem getElem?_credit (server : String) (loads : List Load) (place : Nat) :
    (credit server loads)[place]? = loads[place]?.map fun load =>
      if (loads.map Load.server).idxOf server = place then ⟨load.server, load.lobbies + 1⟩
      else load := by
  induction loads generalizing place with
  | nil => rfl
  | cons load rest ih =>
    by_cases same : load.server = server
    · cases place <;> simp [credit, same]
    · cases place with
      | zero => simp [credit, same]
      | succ place => simp [credit, same, ih]

theorem map_server_tally (servers : List String) (answers : List (Option String)) :
    (tally servers answers).map Load.server = servers := by
  refine List.ext_getElem? fun place => ?_
  simp [tally, List.getElem?_mapIdx, Function.comp_def]

theorem tally_answered (servers : List String) (answers : List (Option String)) (server : String) :
    tally servers (answers ++ [some server]) = credit server (tally servers answers) := by
  refine List.ext_getElem? fun place => ?_
  rw [getElem?_credit, map_server_tally]
  simp only [tally, List.getElem?_mapIdx, Option.map_map]
  refine Option.map_congr fun other found => ?_
  by_cases same : server = other
  · subst same
    by_cases first : servers.idxOf server = place <;> simp [first]
  · -- What stands on the first place of a server is that server.
    have apart : servers.idxOf server ≠ place := by
      rintro rfl
      have there := List.getElem?_eq_some_iff.mp found
      exact same (there.2.symm.trans (List.getElem_idxOf _)).symm
    simp [apart, List.count_append, same]

theorem tally_missed (servers : List String) (answers : List (Option String)) :
    tally servers (answers ++ [none]) = tally servers answers := by
  simp [tally, List.count_append]

theorem tally_perm {answers others : List (Option String)} (same : answers.Perm others)
    (servers : List String) : tally servers answers = tally servers others := by
  simp only [tally, same.count_eq]

/-- No load is below this one, and all before it are above. -/
def FirstLeast (best : Load) (loads : List Load) : Prop :=
  ∃ before after, loads = before ++ best :: after ∧
    (∀ load ∈ before, best.lobbies < load.lobbies) ∧ ∀ load ∈ after, best.lobbies ≤ load.lobbies

theorem firstLeast_least {loads : List Load} (some_load : loads ≠ []) :
    ∃ best, least loads = some best ∧ FirstLeast best loads := by
  obtain ⟨before, best, after, chosen, split, lower, low⟩ := least_first some_load
  exact ⟨best, chosen, before, after, split, lower, low⟩

end Load

namespace Asked

/-- The listing of all keys. -/
def listing (reply : Except Fault (List (Except Fault String))) : Asked := ⟨.scan everyKey, reply⟩

/-- The read of one key. -/
def read (key : String) (reply : Except Fault (Option String)) : Asked := ⟨.get key, reply⟩

/-- A read that has been answered, with nothing or with a server. -/
def answered (pair : String × Option String) : Asked := .read pair.1 (.ok pair.2)

end Asked

/-- The items of a listing that have been read. -/
def itemsRead (reads : List (String × Option String)) : List (Except Fault String) :=
  reads.map fun pair => .ok pair.1

/-- What a count has asked that has met no fault. -/
def wholeCount (reads : List (String × Option String)) : List Asked :=
  .listing (.ok (itemsRead reads)) :: reads.map .answered

/-- What a count over some servers has asked when it ends, and its result: every listed key has been
read, or all keys before a fault have been, which is that of the listing, of the next item or of
the read of the next key. -/
inductive Account (servers : List String) : List Asked → Except Fault (List Load) → Prop
  | whole (reads : List (String × Option String)) :
      Account servers (wholeCount reads) (.ok (Load.tally servers (reads.map Prod.snd)))
  | unlisted (fault : Fault) : Account servers [.listing (.error fault)] (.error fault)
  | interrupted (reads : List (String × Option String)) (fault : Fault)
      (rest : List (Except Fault String)) :
      Account servers
        (.listing (.ok (itemsRead reads ++ .error fault :: rest)) :: reads.map .answered)
        (.error fault)
  | unread (reads : List (String × Option String)) (key : String) (fault : Fault)
      (rest : List (Except Fault String)) :
      Account servers
        (.listing (.ok (itemsRead reads ++ .ok key :: rest)) :: reads.map .answered ++
          [.read key (.error fault)])
        (.error fault)

namespace Tally

/-- What a count has asked when it has come to stand here. -/
inductive Heard (servers : List String) : List Asked → Tally → Prop
  | reading (reads : List (String × Option String)) (key : String)
      (rest : List (Except Fault String)) :
      Heard servers (.listing (.ok (itemsRead reads ++ .ok key :: rest)) :: reads.map .answered)
        (.reading ⟨Load.tally servers (reads.map Prod.snd), key, rest⟩)
  | counted {asked : List Asked} {loads : List Load} (account : Account servers asked (.ok loads)) :
      Heard servers asked (.counted loads)
  | failed {asked : List Asked} {fault : Fault} (account : Account servers asked (.error fault)) :
      Heard servers asked (.failed fault)

theorem heard_before (servers : List String) (reads : List (String × Option String))
    (rest : List (Except Fault String)) :
    Heard servers (.listing (.ok (itemsRead reads ++ rest)) :: reads.map .answered)
      (before (Load.tally servers (reads.map Prod.snd)) rest) := by
  cases rest with
  | nil =>
    rw [List.append_nil]
    exact .counted (.whole reads)
  | cons item rest =>
    cases item with
    | error fault => exact .failed (.interrupted reads fault rest)
    | ok key => exact .reading reads key rest

theorem heard_ofListing (servers : List String)
    (reply : Except Fault (List (Except Fault String))) :
    Heard servers [.listing reply] (ofListing servers reply) := by
  cases reply with
  | error fault => exact .failed (.unlisted fault)
  | ok items =>
    have heard : Heard servers [.listing (.ok items)] (before (Load.tally servers []) items) :=
      heard_before servers [] items
    rwa [Load.tally_nil] at heard

/-- One more read. -/
theorem heard_read {servers : List String} {asked : List Asked} {census : Census}
    (heard : Heard servers asked (.reading census)) (reply : Except Fault (Option String)) :
    Heard servers (asked ++ [.read census.key reply]) (census.read reply) := by
  cases heard with
  | reading reads key rest =>
    rcases reply with fault | _ | server
    · exact .failed (.unread reads key fault rest)
    · have heard := heard_before servers (reads ++ [(key, none)]) rest
      simpa [itemsRead, Load.tally_missed, Census.read, Asked.answered] using heard
    · have heard := heard_before servers (reads ++ [(key, some server)]) rest
      simpa [itemsRead, Load.tally_answered, Census.read, Asked.answered] using heard

variable {σ : Type} [Store σ]

/-- A count at an overheard store is the count at the store behind it. -/
theorem finish_inner (s : Overheard σ) (tally : Tally) :
    tally.finish s.inner = ((tally.finish s).1.inner, (tally.finish s).2) := by
  fun_induction Tally.finish s tally with
  | case1 s loads => rw [Tally.finish]
  | case2 s fault => rw [Tally.finish]
  | case3 s census later reply replied ih =>
    rw [Tally.finish, Overheard.inner_perform, replied]
    exact ih

theorem heard_finish {servers : List String} {s : Overheard σ} {tally : Tally}
    (heard : Heard servers s.asked tally) :
    Account servers (tally.finish s).1.asked (tally.finish s).2 := by
  fun_induction Tally.finish s tally with
  | case1 s loads =>
    show Account servers s.asked (.ok loads)
    generalize s.asked = asked at heard
    cases heard with
    | counted account => exact account
  | case2 s fault =>
    show Account servers s.asked (.error fault)
    generalize s.asked = asked at heard
    cases heard with
    | failed account => exact account
  | case3 s census later reply replied ih =>
    refine ih ?_
    have asked := s.asked_perform (.get census.key)
    rw [replied] at asked
    rw [asked]
    exact heard_read heard reply

end Tally

namespace Account

variable {servers : List String} {asked : List Asked}

theorem ok_iff_faultless {result : Except Fault (List Load)}
    (account : Account servers asked result) :
    (∃ loads, result = .ok loads) ↔ ∀ a ∈ asked, a.faults = [] := by
  cases account with
  | whole reads =>
    refine ⟨fun _ a member => ?_, fun _ => ⟨_, rfl⟩⟩
    rcases List.mem_cons.mp member with rfl | later
    · simp [Asked.listing, Asked.faults, itemsRead]
    · obtain ⟨pair, _, rfl⟩ := List.mem_map.mp later
      rfl
  | unlisted fault => simp [Asked.listing, Asked.faults]
  | interrupted reads fault rest => simp [Asked.listing, Asked.faults]
  | unread reads key fault rest => simp [Asked.read, Asked.faults]

theorem map_server {loads : List Load} (account : Account servers asked (.ok loads)) :
    loads.map Load.server = servers := by
  cases account with
  | whole reads => exact Load.map_server_tally servers _

theorem ne_nil {loads : List Load} (account : Account servers asked (.ok loads))
    (some_server : servers ≠ []) : loads ≠ [] := by
  rintro rfl
  exact some_server account.map_server.symm

/-- The result of a count that has met no fault is what its reads amount to. -/
theorem result_of_whole {reads : List (String × Option String)}
    {result : Except Fault (List Load)} (account : Account servers (wholeCount reads) result) :
    result = .ok (Load.tally servers (reads.map Prod.snd)) := by
  have faultless : ∀ a ∈ wholeCount reads, a.faults = [] :=
    (Account.whole reads : Account servers _ _).ok_iff_faultless.mp ⟨_, rfl⟩
  obtain ⟨loads, rfl⟩ := account.ok_iff_faultless.mpr faultless
  generalize transcript : wholeCount reads = asked at account
  cases account with
  | whole others =>
    have same : reads.map Asked.answered = others.map Asked.answered := (List.cons.inj transcript).2
    have injective : ∀ a b, Asked.answered a = Asked.answered b → a = b := by
      rintro ⟨key, answer⟩ ⟨other, found⟩ same
      injection same with same_call same_reply
      cases same_call
      cases same_reply
      rfl
    rw [(List.map_inj_right injective).mp same]

end Account

namespace Census

variable {σ : Type} [Store σ]

theorem count_inner (s : Overheard σ) (servers : List String) :
    count s.inner servers = ((count s servers).1.inner, (count s servers).2) := by
  unfold count
  split
  · rfl
  · exact Tally.finish_inner (Store.perform s (.scan everyKey)).1 _

/-- A count that is overheard from its first call on. -/
def heardCount (s : σ) (servers : List String) : Overheard σ × Except Fault (List Load) :=
  count (Overheard.fresh s) servers

/-- A choice that is overheard from its first call on. -/
def heardChoice (s : σ) (servers : List String) : Overheard σ × Except Fault String :=
  leastLoaded (Overheard.fresh s) servers

theorem count_account (s : σ) {servers : List String} (some_server : servers ≠ []) :
    Account servers (heardCount s servers).1.asked (heardCount s servers).2 := by
  have nonempty : servers.isEmpty = false := by simpa using some_server
  unfold heardCount count
  rw [nonempty]
  have listed := (Overheard.fresh s).asked_perform (.scan everyKey)
  generalize Store.perform (Overheard.fresh s) (.scan everyKey) = replied at listed ⊢
  obtain ⟨later, reply⟩ := replied
  refine Tally.heard_finish ?_
  rw [listed]
  exact Tally.heard_ofListing servers reply

/-- The choice of a server asks what the count asks, and fails as the count does. -/
theorem leastLoaded_eq (s : σ) (servers : List String) :
    leastLoaded s servers = ((count s servers).1,
      (count s servers).2.bind fun loads =>
        match Load.least loads with
        | some load => .ok load.server
        | none => .error emptyPool) := by
  unfold leastLoaded
  rcases count s servers with ⟨s, fault | loads⟩
  · rfl
  · dsimp only [Except.bind]
    cases Load.least loads <;> rfl

theorem leastLoaded_inner (s : Overheard σ) (servers : List String) :
    leastLoaded s.inner servers = ((leastLoaded s servers).1.inner, (leastLoaded s servers).2) := by
  simp only [leastLoaded_eq, count_inner]

/-- A count against any store and over any servers, some of them perhaps named twice. What it has
asked is one listing and reads of the listed keys in their order; it succeeds exactly if no answer
held a fault, and then the reads amount to its loads, in whatever order they came, and otherwise its
result is the fault at which it stopped. The choice of a server asks the same, and is the first
server with the fewest lobbies. Without a server to ask about, both fail and ask nothing. -/
theorem counts_what_it_reads (s : σ) (servers : List String) :
    (count s servers = ((heardCount s servers).1.inner, (heardCount s servers).2) ∧
      leastLoaded s servers = ((heardChoice s servers).1.inner, (heardChoice s servers).2) ∧
      (heardChoice s servers).1 = (heardCount s servers).1) ∧
    (servers = [] → (heardCount s servers).1.asked = [] ∧
      (heardCount s servers).2 = .error emptyPool ∧ (heardChoice s servers).2 = .error emptyPool) ∧
    (servers ≠ [] →
      Account servers (heardCount s servers).1.asked (heardCount s servers).2 ∧
      ((∃ loads, (heardCount s servers).2 = .ok loads) ↔
        ∀ a ∈ (heardCount s servers).1.asked, a.faults = []) ∧
      (∀ fault, (heardCount s servers).2 = .error fault →
        (heardChoice s servers).2 = .error fault) ∧
      ∀ loads, (heardCount s servers).2 = .ok loads →
        ∃ best, Load.FirstLeast best loads ∧ (heardChoice s servers).2 = .ok best.server) ∧
    ∀ {τ : Type} [Store τ] (t : τ) (reads others : List (String × Option String)),
      reads.Perm others → (heardCount s servers).1.asked = wholeCount reads →
      (heardCount t servers).1.asked = wholeCount others →
      (heardCount t servers).2 = (heardCount s servers).2 := by
  have choice : heardChoice s servers =
      ((heardCount s servers).1, (heardCount s servers).2.bind fun loads =>
        match Load.least loads with
        | some load => .ok load.server
        | none => .error emptyPool) := leastLoaded_eq (Overheard.fresh s) servers
  refine ⟨⟨count_inner (Overheard.fresh s) servers, leastLoaded_inner (Overheard.fresh s) servers,
    congrArg Prod.fst choice⟩, ?_, fun some_server => ?_, ?_⟩
  · rintro rfl
    exact ⟨rfl, rfl, rfl⟩
  · have account := count_account s some_server
    refine ⟨account, account.ok_iff_faultless, ?_, ?_⟩
    · intro fault failed
      rw [choice, failed]
      rfl
    · intro loads found
      rw [found] at account
      obtain ⟨best, least, first⟩ := Load.firstLeast_least (account.ne_nil some_server)
      refine ⟨best, first, ?_⟩
      simp only [choice, found, Except.bind, least]
  · intro τ _ t reads others reordered asked askedThere
    have some_server : servers ≠ [] := by
      rintro rfl
      cases asked
    have account := count_account s some_server
    have accountThere := count_account t some_server
    rw [asked] at account
    rw [askedThere] at accountThere
    rw [account.result_of_whole, accountThere.result_of_whole,
      Load.tally_perm (reordered.map Prod.snd)]

/-- A store that answers the reads of one count, whichever keys they are of. -/
def answering (reads : List (String × Option String)) (log : List StoreCall) : ScriptedStore :=
  ⟨.empty, { Script.empty with gets := reads.map fun pair => .answer pair.2 }, log⟩

/-- A store that answers one count with these reads. -/
def listing (reads : List (String × Option String)) : ScriptedStore :=
  ⟨.empty, { Script.empty with
    scans := [.answer (itemsRead reads)], gets := reads.map fun pair => .answer pair.2 }, []⟩

theorem asked_finish_answering (reads : List (String × Option String)) (log : List StoreCall)
    (asked : List Asked) (loads : List Load) :
    ((Tally.before loads (itemsRead reads)).finish
      (⟨answering reads log, asked⟩ : Overheard ScriptedStore)).1.asked =
        asked ++ reads.map .answered := by
  induction reads generalizing log asked loads with
  | nil => simp [itemsRead, Tally.before, Tally.finish]
  | cons pair reads ih =>
    obtain ⟨key, answer⟩ := pair
    have answered : Store.perform
        (⟨answering ((key, answer) :: reads) log, asked⟩ : Overheard ScriptedStore) (.get key) =
        (⟨answering reads (log ++ [.get key]), asked ++ [.answered (key, answer)]⟩,
          .ok answer) := rfl
    have first : Tally.before loads (itemsRead ((key, answer) :: reads)) =
        .reading ⟨loads, key, itemsRead reads⟩ := rfl
    have later (loads : List Load) :=
      ih (log ++ [.get key]) (asked ++ [.answered (key, answer)]) loads
    rw [← List.append_cons] at later
    rw [first, Tally.finish, answered]
    cases answer with
    | none => exact later loads
    | some server => exact later (Load.credit server loads)

/-- Any reads are those of some count, at a store that answers so. -/
theorem asked_listing (reads : List (String × Option String)) {servers : List String}
    (some_server : servers ≠ []) :
    (heardCount (listing reads) servers).1.asked = wholeCount reads := by
  have nonempty : servers.isEmpty = false := by simpa using some_server
  unfold heardCount count
  rw [nonempty]
  exact asked_finish_answering reads [.scan everyKey] [.listing (.ok (itemsRead reads))]
    (Load.zero servers)

/-- Reads of a key listed twice, of one that has vanished and of one on an unknown server. -/
def mixedReads : List (String × Option String) :=
  [("L1", some "A"), ("L2", none), ("L1", some "B"), ("L3", some "A"), ("L4", some "C")]

def mixedCount (reads : List (String × Option String)) :
    Overheard ScriptedStore × Except Fault (List Load) :=
  heardCount (listing reads) ["A", "B", "A"]

theorem mixed_reads_reversed :
    ["A", "B", "A"] ≠ [] ∧
      Account ["A", "B", "A"] (mixedCount mixedReads).1.asked (mixedCount mixedReads).2 ∧
      mixedReads.Perm mixedReads.reverse ∧
      (mixedCount mixedReads).1.asked = wholeCount mixedReads ∧
      (mixedCount mixedReads.reverse).1.asked = wholeCount mixedReads.reverse ∧
      (mixedCount mixedReads).2 = .ok [⟨"A", 2⟩, ⟨"B", 1⟩, ⟨"A", 0⟩] ∧
      (mixedCount mixedReads.reverse).2 = (mixedCount mixedReads).2 := by
  have some_server : ["A", "B", "A"] ≠ [] := List.cons_ne_nil _ _
  have asked : (mixedCount mixedReads).1.asked = wholeCount mixedReads :=
    asked_listing mixedReads some_server
  have reversed : (mixedCount mixedReads.reverse).1.asked = wholeCount mixedReads.reverse :=
    asked_listing mixedReads.reverse some_server
  have turned : mixedReads.Perm mixedReads.reverse := (List.reverse_perm mixedReads).symm
  obtain ⟨_, _, full, reordered⟩ := counts_what_it_reads (listing mixedReads) ["A", "B", "A"]
  have account := (full some_server).1
  have counted : (mixedCount mixedReads).2 = .ok [⟨"A", 2⟩, ⟨"B", 1⟩, ⟨"A", 0⟩] := by
    have whole : Account ["A", "B", "A"] (wholeCount mixedReads) (mixedCount mixedReads).2 :=
      asked ▸ account
    rw [whole.result_of_whole]
    rfl
  exact ⟨some_server, account, turned, asked, reversed, counted,
    reordered (listing mixedReads.reverse) _ _ turned asked reversed⟩

end Census

end LobbyPlacement
