import LobbyPlacement.Json.PoolText
import LobbyPlacement.Proofs.Json.Texts
import LobbyPlacement.Proofs.Pool.Faults
import LobbyPlacement.Proofs.Service.Safety
import LobbyPlacement.Proofs.Settings.Overlay

/-!
# Where pools come from

A pool comes from a list of addresses: given as such, written in a text, read from JSON or set for a
service. Every way leads through `ofList`. `pools_are_their_lists` says what `ofList` accepts, what
it tells otherwise, and that a pool of any origin is found again from its addresses.
-/

namespace LobbyPlacement

open Text.Utf8 (Bytes encode)

/-- A service that was put together works with the pool of the servers that are set. -/
theorem Service.ofList_of_ready {σ : Type} {settings : Settings} {store : σ} {broker : Broker}
    {service : Service σ} (ready : (assemble settings store broker).result = .ready service) :
    Pool.ofList settings.servers = .ok service.desk.rules.pool := by
  unfold assemble at ready
  split at ready
  next refused => cases ready
  next pool listed =>
    dsimp only at ready
    split at ready
    · cases ready
      exact listed
    all_goals cases ready

namespace Pool

variable {p : Pool} {servers : List String}

/-- What is read is the pool of the addresses that stand in front, with nothing behind them. -/
theorem ofJson_eq_ok_iff {input : Bytes} :
    ofJson input = .ok p ↔
      ∃ rest, JsonText.expectTexts input = .ok (p.servers, rest) ∧
        JsonText.expectEnd rest = .ok () := by
  constructor
  · intro read
    obtain ⟨⟨servers, rest⟩, texts, read⟩ := bind_eq_ok_iff.mp read
    obtain ⟨pool, listed, read⟩ := bind_eq_ok_iff.mp read
    obtain ⟨_, ended, read⟩ := bind_eq_ok_iff.mp read
    obtain rfl := Except.ok.inj read
    rw [mapError_eq_ok_iff] at texts listed ended
    obtain rfl := ofList_eq_ok_iff.mp listed
    exact ⟨rest, texts, ended⟩
  · rintro ⟨rest, texts, ended⟩
    apply bind_eq_ok_iff.mpr
    refine ⟨(p.servers, rest), mapError_eq_ok_iff.mpr texts, ?_⟩
    apply bind_eq_ok_iff.mpr
    refine ⟨p, mapError_eq_ok_iff.mpr (ofList_servers p), ?_⟩
    exact bind_eq_ok_iff.mpr ⟨(), mapError_eq_ok_iff.mpr ended, rfl⟩

theorem ofJson_json (p : Pool) : ofJson (encode p.json.compact) = .ok p :=
  ofJson_eq_ok_iff.mpr ⟨[], JsonText.expectTexts_written p.servers, rfl⟩

/-- The pool holds these addresses as they are, at least one and none of them twice, and it is found
again from the list of its addresses and from that list in JSON. -/
structure IsPoolOf (p : Pool) (servers : List String) : Prop where
  servers_eq : p.servers = servers
  nonempty : servers ≠ []
  distinct : servers.Nodup
  listed : ofList p.servers = .ok p
  written : ofJson (encode p.json.compact) = .ok p

theorem isPoolOf (accepted : ofList servers = .ok p) : IsPoolOf p servers := by
  obtain rfl := ofList_eq_ok_iff.mp accepted
  exact ⟨rfl, p.nonempty, p.distinct, ofList_servers p, ofJson_json p⟩

/-- A list is a pool exactly if it is not empty, none of its addresses is blank and no two are the
same; otherwise it is empty or its first fault is told. Whichever way a pool came about, it is the
pool of the list that it came from. -/
theorem pools_are_their_lists :
    (∀ servers : List String,
      ((∃ p, ofList servers = .ok p) ↔
        servers ≠ [] ∧ (∀ server ∈ servers, Text.isBlankText server = false) ∧ servers.Nodup) ∧
      (∀ p, ofList servers = .ok p → IsPoolOf p servers) ∧
      ∀ fault, ofList servers = .error fault ↔
        servers = [] ∧ fault = .empty ∨ ∃ index, IsFirstFault servers index fault) ∧
    (∀ (text : String) (p : Pool), ofText text = .ok p → IsPoolOf p (Text.splitEntries text)) ∧
    (∀ (input : Bytes) (p : Pool), ofJson input = .ok p →
      ∃ servers rest, JsonText.expectTexts input = .ok (servers, rest) ∧ IsPoolOf p servers) ∧
    ∀ {σ : Type} (settings : Settings) (store : σ) (broker : Broker) (service : Service σ),
      (Service.assemble settings store broker).result = .ready service →
      IsPoolOf service.desk.rules.pool settings.servers := by
  refine ⟨?_, ?_, ?_, ?_⟩
  · intro servers
    exact ⟨exists_ofList_iff, fun p accepted => isPoolOf accepted, fun fault => ofList_eq_error_iff⟩
  · intro text p read
    exact isPoolOf read
  · intro input p read
    obtain ⟨rest, texts, -⟩ := ofJson_eq_ok_iff.mp read
    exact ⟨p.servers, rest, texts, isPoolOf (ofList_servers p)⟩
  · intro σ settings store broker service ready
    exact isPoolOf (Service.ofList_of_ready ready)

/-- A blank address goes before a later repetition, and two addresses are a pool of every origin. -/
theorem blank_is_told_and_two_are_a_pool :
    ofList ["A", "\u2003", "A"] = .error .blank ∧
    (∃ p, ofList ["B", "A"] = .ok p ∧ IsPoolOf p ["B", "A"]) ∧
    (∃ p, ofText " B,, A" = .ok p ∧ IsPoolOf p ["B", "A"]) ∧
    (∃ input p, ofJson input = .ok p ∧ IsPoolOf p ["B", "A"]) ∧
    ∃ service, (Service.assemble .standard MemoryStore.empty .unreachable).result = .ready service ∧
      IsPoolOf service.desk.rules.pool Settings.standard.servers := by
  obtain ⟨lists, texts, inputs, services⟩ := pools_are_their_lists
  have first : IsFirstFault ["A", "\u2003", "A"] 1 .blank := by
    refine ⟨.blank rfl (by decide), ?_⟩
    intro earlier before other faulty
    obtain rfl := Nat.lt_one_iff.mp before
    cases faulty with
    | blank here blank =>
      obtain rfl := Option.some.inj here
      exact absurd blank (by decide)
    | duplicate _ _ before => exact Nat.not_lt_zero _ before
  have told := ((lists _).2.2 .blank).mpr (.inr ⟨1, first⟩)
  obtain ⟨p, listed⟩ := (lists ["B", "A"]).1.mpr (by decide)
  have split : Text.splitEntries " B,, A" = ["B", "A"] := by decide
  have read : ofText " B,, A" = .ok p := by rw [ofText, split, listed]
  have ofRead := texts _ p read
  rw [split] at ofRead
  have ofListed := (lists _).2.1 p listed
  obtain ⟨servers, rest, found, ofInput⟩ := inputs _ p ofListed.written
  obtain rfl : servers = ["B", "A"] := ofInput.servers_eq.symm.trans ofListed.servers_eq
  have valid : Settings.standard.validate = .ok () := by decide
  obtain ⟨pool, accepted⟩ := Settings.pool_of_valid valid
  have ready := Service.assemble_on_bus accepted rfl .unreachable
  exact ⟨told, ⟨p, listed, ofListed⟩, ⟨p, read, ofRead⟩, ⟨_, p, ofListed.written, ofInput⟩,
    _, ready, services _ _ _ _ ready⟩

end Pool

end LobbyPlacement
