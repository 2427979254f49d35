import LobbyPlacement.Proofs.Pool.Faults
import LobbyPlacement.Proofs.Text.Entries

/-!
# Pools written as lists

A pool is shown as its addresses between brackets, joined with commas and blanks. What stands
between the brackets is a list that the same pool is read from (`splitting_inverts_joining`).
-/

namespace LobbyPlacement.Pool

open Text (IsEntry splitEntries)

theorem splitEntries_commas {servers : List String}
    (entries : ∀ server ∈ servers, IsEntry server.toList) :
    splitEntries (",".intercalate servers) = servers :=
  Text.splitEntries_joined entries (show ",".toList = [','] from rfl) nofun

theorem splitEntries_spaced {servers : List String}
    (entries : ∀ server ∈ servers, IsEntry server.toList) :
    splitEntries (", ".intercalate servers) = servers := by
  apply Text.splitEntries_joined entries (show ", ".toList = [',', ' '] from rfl)
  intro c padding
  rw [List.mem_singleton.mp padding]
  rfl

theorem servers_of_ofText {text : String} {p : Pool} (read : ofText text = .ok p) :
    p.servers = splitEntries text :=
  ofList_eq_ok_iff.mp read

/-- Entries joined with commas, blanks behind them or not, are the entries that are read; what is
read from any text are such entries; and the text that a pool is shown as holds the pool. -/
theorem splitting_inverts_joining :
    (∀ servers : List String, (∀ server ∈ servers, IsEntry server.toList) →
      splitEntries (",".intercalate servers) = servers ∧
      splitEntries (", ".intercalate servers) = servers) ∧
    (∀ text : String,
      (∀ server ∈ splitEntries text, IsEntry server.toList) ∧
      splitEntries (",".intercalate (splitEntries text)) = splitEntries text ∧
      splitEntries (", ".intercalate (splitEntries text)) = splitEntries text) ∧
    ∀ (text : String) (p : Pool), ofText text = .ok p →
      ∃ inside, p.text = "[" ++ inside ++ "]" ∧ ofText inside = .ok p := by
  have entries : ∀ text, ∀ server ∈ splitEntries text, IsEntry server.toList :=
    fun _ _ member => Text.isEntry_of_mem_splitEntries member
  refine ⟨?_, ?_, ?_⟩
  · intro servers listed
    exact ⟨splitEntries_commas listed, splitEntries_spaced listed⟩
  · intro text
    exact ⟨entries text, splitEntries_commas (entries text), splitEntries_spaced (entries text)⟩
  · intro text p read
    have servers := servers_of_ofText read
    refine ⟨", ".intercalate p.servers, rfl, ?_⟩
    have listed : ∀ server ∈ p.servers, IsEntry server.toList := by
      rw [servers]
      exact entries text
    rw [ofText, splitEntries_spaced listed, ofList_servers]

/-- Blanks inside an address stay; those around it, and items without anything else, go. -/
theorem ragged_list_is_read_back :
    splitEntries ", b c ,,\u00a0A\t,\u3000" = ["b c", "A"] ∧
      splitEntries (", ".intercalate ["b c", "A"]) = ["b c", "A"] ∧
      ∃ p, ofText ", b c ,,\u00a0A\t,\u3000" = .ok p ∧
        ∃ inside, p.text = "[" ++ inside ++ "]" ∧ ofText inside = .ok p := by
  have split : splitEntries ", b c ,,\u00a0A\t,\u3000" = ["b c", "A"] := by decide
  have joined := (splitting_inverts_joining.1 ["b c", "A"] (by decide)).2
  obtain ⟨p, read⟩ : ∃ p, ofText ", b c ,,\u00a0A\t,\u3000" = .ok p := by
    rw [ofText, split]
    exact exists_ofList_iff.mpr (by decide)
  exact ⟨split, joined, p, read, splitting_inverts_joining.2.2 _ p read⟩

end LobbyPlacement.Pool
