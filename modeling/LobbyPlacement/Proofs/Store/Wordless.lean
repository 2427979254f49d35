import Mathlib.Data.List.Forall2
import LobbyPlacement.Store.Call

/-!
# Stores in other words

A fault tells its kind and a text. Two stores speak alike if, whatever they were asked before, they
answer every call the same but for the texts of their faults. A store speaks like the one that keeps
its texts to itself.
-/

namespace LobbyPlacement

/-- The same kind of fault in other words. -/
def Fault.reworded (text : String) : Fault → Fault
  | invalidLobby _ => invalidLobby text
  | storeUnavailable _ => storeUnavailable text
  | configuration _ => configuration text
  | serialization _ => serialization text
  | publish _ => publish text
  | connection _ => connection text
  | internal _ => internal text

/-- The same result, but for the words of a fault. -/
inductive Rephrased {α : Type} : Except Fault α → Except Fault α → Prop
  | same (result : Except Fault α) : Rephrased result result
  | reworded (fault : Fault) (text : String) :
      Rephrased (.error fault) (.error (fault.reworded text))

namespace StoreCall

/-- The same reply to a call, but for the words of its fault or of those in its listing. -/
inductive Rephrased : (c : StoreCall) → c.Reply → c.Reply → Prop
  | same (c : StoreCall) (reply : c.Reply) : Rephrased c reply reply
  | reworded (c : StoreCall) (fault : Fault) (text : String) :
      Rephrased c (.error fault) (.error (fault.reworded text))
  | listed (pattern : String) {items itemsToo : List (Except Fault String)}
      (alike : List.Forall₂ LobbyPlacement.Rephrased items itemsToo) :
      Rephrased (.scan pattern) (.ok items) (.ok itemsToo)

end StoreCall

namespace Store

variable {σ τ : Type} [Store σ] [Store τ]

/-- A store after some calls. -/
def after (s : σ) (calls : List StoreCall) : σ := calls.foldl (fun s c => (perform s c).1) s

/-- Two stores that, whatever they were asked before, answer every call alike, but for the words of
their faults. -/
def SpeakAlike (s : σ) (t : τ) : Prop :=
  ∀ calls c, StoreCall.Rephrased c (perform (after s calls) c).2 (perform (after t calls) c).2

theorem SpeakAlike.reply {s : σ} {t : τ} (alike : SpeakAlike s t) (c : StoreCall) :
    c.Rephrased (perform s c).2 (perform t c).2 :=
  alike [] c

theorem SpeakAlike.next {s : σ} {t : τ} (alike : SpeakAlike s t) (c : StoreCall) :
    SpeakAlike (perform s c).1 (perform t c).1 :=
  fun calls => alike (c :: calls)

end Store

/-! ### A store without words -/

namespace StoreCall

/-- A reply without the words of its faults. -/
def wordless : (c : StoreCall) → c.Reply → c.Reply
  | .scan _, .ok items => .ok (items.map (Except.mapError (Fault.reworded "")))
  | _, reply => reply.mapError (Fault.reworded "")

end StoreCall

theorem rephrased_mapError {α : Type} (result : Except Fault α) (text : String) :
    Rephrased result (result.mapError (Fault.reworded text)) := by
  cases result with
  | error fault => exact .reworded fault text
  | ok value => exact .same (.ok value)

theorem StoreCall.rephrased_wordless (c : StoreCall) (reply : c.Reply) :
    c.Rephrased reply (c.wordless reply) := by
  cases reply with
  | error fault => cases c <;> exact .reworded _ fault ""
  | ok answer =>
    cases c with
    | scan pattern =>
      refine .listed pattern ?_
      rw [List.forall₂_map_right_iff]
      exact List.forall₂_same.mpr fun item _ => rephrased_mapError item ""
    | get _ | put _ _ | putIfAbsent _ _ | ping => exact .same _ _

/-- A store behind a front that keeps the words of its faults to itself. -/
structure Wordless (σ : Type) where
  inner : σ

namespace Wordless

variable {σ : Type} [Store σ]

def perform (s : Wordless σ) (c : StoreCall) : Wordless σ × c.Reply :=
  let (inner, reply) := Store.perform s.inner c
  (⟨inner⟩, c.wordless reply)

instance : Store (Wordless σ) := ⟨perform⟩

theorem after_inner (s : σ) (calls : List StoreCall) :
    Store.after (Wordless.mk s) calls = ⟨Store.after s calls⟩ := by
  unfold Store.after
  induction calls generalizing s with
  | nil => rfl
  | cons call rest ih => exact ih (Store.perform s call).1

theorem speakAlike (s : σ) : Store.SpeakAlike s (Wordless.mk s) := by
  intro calls c
  rw [after_inner]
  exact c.rephrased_wordless _

end Wordless

end LobbyPlacement
