import LobbyPlacement.Proofs.Placement.Announcing

/-!
# Servers come from the pool

Whatever the store answers, a request counts the servers of its pool, and the server that it writes
is one of them: `resume_within` says that a reply keeps it so, and `writes_within` that its writes
do.
-/

namespace LobbyPlacement

theorem Load.credit_servers (server : String) (loads : List Load) :
    (credit server loads).map Load.server = loads.map Load.server := by
  induction loads with
  | nil => rfl
  | cons first rest ih =>
    unfold credit
    split
    next same => rw [List.map_cons, List.map_cons, same]
    next => rw [List.map_cons, List.map_cons, ih]

namespace Progress

/-- A server that the request has in mind is one of the pool. -/
def Within (pool : Pool) : Progress → Prop
  | .waiting (.counting census) => census.loads.map Load.server = pool.servers
  | .waiting (.claiming server) => server ∈ pool.servers
  | .waiting (.overwriting server) => server ∈ pool.servers
  | .waiting (.announcing server) => server ∈ pool.servers
  | _ => True

theorem start_within (pool : Pool) (lobby : String) :
    (Placement.start lobby).progress.Within pool := by
  rcases Placement.start_progress lobby with looking | ⟨_, refused⟩
  · rw [looking]
    trivial
  · rw [refused]
    trivial

theorem afterTally_within {rules : Rules} {loads : List Load}
    (whole : loads.map Load.server = rules.pool.servers) (listing : List (Except Fault String)) :
    (Placement.afterTally rules (.before loads listing)).progress.Within rules.pool := by
  rcases Placement.afterTally_progress rules (.before loads listing) with
    ⟨census, tally, next⟩ | ⟨fault, _, next⟩ | ⟨counted, load, tally, chosen, next⟩
  · rw [next]
    cases listing with
    | nil => cases tally
    | cons item rest =>
      cases item with
      | error fault => cases tally
      | ok key =>
        obtain rfl := Tally.reading.inj tally
        exact whole
  · rw [next]
    trivial
  · have member : load.server ∈ rules.pool.servers := by
      obtain rfl : loads = counted := by
        cases listing with
        | nil => exact Tally.counted.inj tally
        | cons item rest => cases item <;> cases tally
      rw [← whole]
      exact List.mem_map_of_mem (Load.least_le chosen).1
    rw [next]
    cases rules.mode with
    | createIfAbsent => exact member
    | lastWriteWins => exact member

end Progress

namespace Phase

variable {rules : Rules} {lobby : String} {phase : Phase}

/-- Whatever the reply, a request keeps to the pool. -/
theorem resume_within (before : (Progress.waiting phase).Within rules.pool)
    (reply : (phase.effect lobby).Reply) :
    (Placement.resume rules lobby phase reply).progress.Within rules.pool := by
  cases phase with
  | looking => rcases reply with fault | _ | server <;> trivial
  | listing =>
    rcases reply with fault | listing
    · trivial
    · have whole : (Load.zero rules.pool.servers).map Load.server = rules.pool.servers := by
        simp [Load.zero, Function.comp_def]
      exact Progress.afterTally_within whole listing
  | counting census =>
    rcases reply with fault | _ | server
    · trivial
    · exact Progress.afterTally_within before census.rest
    · exact Progress.afterTally_within ((Load.credit_servers _ _).trans before) census.rest
  | claiming server =>
    rcases reply with fault | _ | _
    · trivial
    · trivial
    · exact before
  | overwriting server =>
    rcases reply with fault | _
    · trivial
    · exact before
  | adopting => rcases reply with fault | _ | server <;> trivial
  | announcing server => cases reply <;> trivial

theorem writes_within (before : (Progress.waiting phase).Within rules.pool)
    (reply : (phase.effect lobby).Reply) :
    ∀ write ∈ (phase.effect lobby).writes reply, write.2 ∈ rules.pool.servers := by
  cases phase with
  | looking | listing | counting | adopting | announcing => exact List.forall_mem_nil _
  | claiming server =>
    rcases reply with fault | _ | _
    · exact List.forall_mem_nil _
    · exact List.forall_mem_nil _
    · exact List.forall_mem_singleton.mpr before
  | overwriting server =>
    rcases reply with fault | _
    · exact List.forall_mem_nil _
    · exact List.forall_mem_singleton.mpr before

end Phase

end LobbyPlacement
