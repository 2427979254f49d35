import LobbyPlacement.Store.Memory

/-!
# A store with a script

A store in memory behind prepared replies. Each kind of call has a queue of replies; a call takes
the first of its queue and reaches the store in memory only when that says so or the queue is
empty. Every call is logged before it is answered.
-/

namespace LobbyPlacement

inductive Prepared (α : Type)
  | fail (fault : Fault)
  | answer (a : α)
  | pass
deriving Repr

structure Script where
  gets : List (Prepared (Option String))
  puts : List (Prepared Unit)
  conditionalPuts : List (Prepared Bool)
  scans : List (Prepared (List (Except Fault String)))
  pings : List (Prepared Unit)

namespace Script

def empty : Script := ⟨[], [], [], [], []⟩

/-- The reply prepared for a call, and the script without it. -/
def take (s : Script) : (c : StoreCall) → Prepared c.Answer × Script
  | .get _ => (s.gets.headD .pass, { s with gets := s.gets.tail })
  | .put _ _ => (s.puts.headD .pass, { s with puts := s.puts.tail })
  | .putIfAbsent _ _ =>
    (s.conditionalPuts.headD .pass, { s with conditionalPuts := s.conditionalPuts.tail })
  | .scan _ => (s.scans.headD .pass, { s with scans := s.scans.tail })
  | .ping => (s.pings.headD .pass, { s with pings := s.pings.tail })

end Script

structure ScriptedStore where
  memory : MemoryStore
  script : Script
  log : List StoreCall

namespace ScriptedStore

def ofMemory (memory : MemoryStore) : ScriptedStore := ⟨memory, .empty, []⟩

def perform (s : ScriptedStore) (c : StoreCall) : ScriptedStore × c.Reply :=
  let (prepared, script) := s.script.take c
  let logged : ScriptedStore := ⟨s.memory, script, s.log ++ [c]⟩
  match prepared with
  | .fail fault => (logged, .error fault)
  | .answer a => (logged, .ok a)
  | .pass =>
    let (memory, reply) := s.memory.perform c
    ({ logged with memory := memory }, reply)

instance : Store ScriptedStore := ⟨perform⟩

end ScriptedStore

end LobbyPlacement
