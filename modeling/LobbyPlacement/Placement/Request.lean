import LobbyPlacement.Announcement
import LobbyPlacement.Placement.Census
import LobbyPlacement.Placement.WriteMode
import LobbyPlacement.Pool
import LobbyPlacement.Text.Blank

/-!
# Placement requests

One request for the server of a lobby, as a machine that waits for one effect at a time: a store
call or an announcement. It looks the lobby up; on a miss it counts all lobbies, writes the least
loaded server and announces it; a conditional write that comes too late is answered with what is
stored. `rank_resume_lt` says that every reply brings a request closer to its end.
-/

namespace LobbyPlacement

/-- How a request ended, as the counters tell it. -/
inductive Ending
  | hit
  | created
  | lostRace
  | clientError
  | storeError
  | failed
deriving DecidableEq, Repr

def Ending.label : Ending → String
  | hit => "hit"
  | created => "created"
  | lostRace => "lost_race"
  | clientError => "client_error"
  | storeError => "store_error"
  | failed => "failed"

/-- The server of a lobby: already stored, newly placed by this request, or stored by another
request while this one was counting. -/
inductive Placed
  | found (server : String)
  | created (server : String)
  | adopted (server : String)
deriving DecidableEq, Repr

namespace Placed

def server : Placed → String
  | found s => s
  | created s => s
  | adopted s => s

def isNew : Placed → Bool
  | created _ => true
  | _ => false

end Placed

abbrev Outcome := Except Fault Placed

def Outcome.ending : Outcome → Ending
  | .ok (.found _) => .hit
  | .ok (.created _) => .created
  | .ok (.adopted _) => .lostRace
  | .error (.invalidLobby _) => .clientError
  | .error (.storeUnavailable _) => .storeError
  | .error _ => .failed

/-- What becomes of an announcement within its time limit. A publisher that crashes takes the
request with it. -/
inductive Delivery
  | confirmed
  | unconfirmed
  | crashed
deriving DecidableEq, Repr

inductive Effect
  | store (call : StoreCall)
  | announce (announcement : Announcement)

abbrev Effect.Reply : Effect → Type
  | store call => call.Reply
  | announce _ => Delivery

/-- What a request tells the counters on its way. -/
inductive Note
  | found
  | adopted
  | counted (loads : List Load)
  | created (server : String)
  | announced (confirmed : Bool)
  | answered (ending : Ending)
deriving Repr

inductive Phase
  | looking
  | listing
  | counting (census : Census)
  | claiming (server : String)
  | overwriting (server : String)
  | adopting
  | announcing (server : String)

namespace Phase

def effect (lobby : String) : Phase → Effect
  | looking => .store (.get lobby)
  | listing => .store (.scan everyKey)
  | counting census => .store (.get census.key)
  | claiming server => .store (.putIfAbsent lobby server)
  | overwriting server => .store (.put lobby server)
  | adopting => .store (.get lobby)
  | announcing server => .announce ⟨lobby, server⟩

/-- The number of later phases, announcements last. -/
def stage : Phase → Nat
  | looking => 6
  | listing => 5
  | counting _ => 4
  | claiming _ => 3
  | overwriting _ => 3
  | adopting => 2
  | announcing _ => 1

def remaining : Phase → Nat
  | counting census => (Tally.reading census).remaining
  | _ => 0

end Phase

inductive Progress
  | waiting (phase : Phase)
  | answered (outcome : Outcome)
  | crashed

namespace Progress

def stage : Progress → Nat
  | waiting phase => phase.stage
  | _ => 0

def remaining : Progress → Nat
  | waiting phase => phase.remaining
  | _ => 0

end Progress

structure Move where
  notes : List Note
  progress : Progress

namespace Move

def wait (notes : List Note) (phase : Phase) : Move := ⟨notes, .waiting phase⟩

def answer (notes : List Note) (outcome : Outcome) : Move :=
  ⟨notes ++ [.answered outcome.ending], .answered outcome⟩

end Move

/-- What holds for all requests of one service: where lobbies may go, how they are written, and
where and how long they are announced. -/
structure Rules where
  pool : Pool
  mode : WriteMode
  channel : String
  announceLimit : Nat

namespace Rules

/-- New placements are conditional and announced within two seconds. -/
def standard (pool : Pool) : Rules :=
  ⟨pool, .createIfAbsent, Announcement.defaultChannel, 2000⟩

end Rules

namespace Placement

def blankLobby : Fault := .invalidLobby "lobby_id is required"

def noServer : Fault := .configuration "backend server pool is empty"

def vanished (lobby : String) : Fault :=
  .internal ("assignment for lobby '" ++ lobby ++ "' vanished after a conflicting write")

/-- A lobby needs at least one character that is not blank. -/
def checkLobby (lobby : String) : Except Fault Unit :=
  if Text.isBlankText lobby then .error blankLobby else .ok ()

/-- A new request; a blank lobby is refused without a store call. -/
def start (lobby : String) : Move :=
  match checkLobby lobby with
  | .error fault => .answer [] (.error fault)
  | .ok () => .wait [] .looking

def writing (mode : WriteMode) (server : String) : Phase :=
  match mode with
  | .createIfAbsent => .claiming server
  | .lastWriteWins => .overwriting server

def afterTally (rules : Rules) : Tally → Move
  | .reading census => .wait [] (.counting census)
  | .failed fault => .answer [] (.error fault)
  | .counted loads =>
    match Load.least loads with
    | some load => .wait [.counted loads] (writing rules.mode load.server)
    | none => .answer [.counted loads] (.error noServer)

def resume (rules : Rules) (lobby : String) :
    (phase : Phase) → (phase.effect lobby).Reply → Move
  | .looking, .error fault => .answer [] (.error fault)
  | .looking, .ok (some server) => .answer [.found] (.ok (.found server))
  | .looking, .ok none => .wait [] .listing
  | .listing, reply => afterTally rules (.ofListing rules.pool.servers reply)
  | .counting census, reply => afterTally rules (census.read reply)
  | .claiming _, .error fault => .answer [] (.error fault)
  | .claiming server, .ok true => .wait [.created server] (.announcing server)
  | .claiming _, .ok false => .wait [] .adopting
  | .overwriting _, .error fault => .answer [] (.error fault)
  | .overwriting server, .ok () => .wait [.created server] (.announcing server)
  | .adopting, .error fault => .answer [] (.error fault)
  | .adopting, .ok none => .answer [] (.error (vanished lobby))
  | .adopting, .ok (some server) => .answer [.adopted] (.ok (.adopted server))
  | .announcing server, .confirmed => .answer [.announced true] (.ok (.created server))
  | .announcing server, .unconfirmed => .answer [.announced false] (.ok (.created server))
  | .announcing _, .crashed => ⟨[], .crashed⟩

/-- Earlier phases and, within a count, more keys come first. -/
def Closer (a b : Nat × Nat) : Prop := Prod.Lex (· < ·) (· < ·) a b

theorem stage_writing (mode : WriteMode) (server : String) : (writing mode server).stage = 3 := by
  cases mode <;> rfl

theorem afterTally_stage_le (rules : Rules) (tally : Tally) :
    (afterTally rules tally).progress.stage ≤ 3 ∨
      (afterTally rules tally).progress.stage = 4 ∧
        (afterTally rules tally).progress.remaining = tally.remaining := by
  cases tally with
  | reading census => exact .inr ⟨rfl, rfl⟩
  | failed fault => exact .inl (Nat.zero_le _)
  | counted loads =>
    refine .inl ?_
    simp only [afterTally]
    split
    · simp [Move.wait, Progress.stage, stage_writing]
    · exact Nat.zero_le _

/-- Every reply lowers the stage, or keeps it and leaves fewer keys to read. -/
theorem rank_resume_lt (rules : Rules) (lobby : String) (phase : Phase)
    (reply : (phase.effect lobby).Reply) :
    Closer ((resume rules lobby phase reply).progress.stage,
        (resume rules lobby phase reply).progress.remaining)
      (phase.stage, phase.remaining) := by
  cases phase with
  | looking =>
    refine .left _ _ ?_
    rcases reply with _ | _ | _ <;>
      simp [resume, Move.answer, Move.wait, Progress.stage, Phase.stage]
  | listing =>
    refine .left _ _ ?_
    have := afterTally_stage_le rules (.ofListing rules.pool.servers reply)
    simp only [resume, Phase.stage]
    omega
  | counting census =>
    rcases afterTally_stage_le rules (census.read reply) with lower | ⟨same, fewer⟩
    · refine .left _ _ ?_
      simp only [resume, Phase.stage]
      omega
    · simp only [resume, same, fewer]
      exact .right _ (census.remaining_read_lt reply)
  | claiming server =>
    refine .left _ _ ?_
    rcases reply with _ | _ | _ <;>
      simp [resume, Move.answer, Move.wait, Progress.stage, Phase.stage]
  | overwriting server =>
    refine .left _ _ ?_
    rcases reply with _ | _ <;>
      simp [resume, Move.answer, Move.wait, Progress.stage, Phase.stage]
  | adopting =>
    refine .left _ _ ?_
    rcases reply with _ | _ | _ <;>
      simp [resume, Move.answer, Progress.stage, Phase.stage]
  | announcing server =>
    refine .left _ _ ?_
    cases reply <;> simp [resume, Move.answer, Progress.stage, Phase.stage]

end Placement

end LobbyPlacement
