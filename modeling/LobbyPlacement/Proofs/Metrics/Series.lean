import LobbyPlacement.Metrics.Gauges
import Mathlib.Algebra.Ring.Int.Defs

/-!
# Which labels share a child

The hash under which a series keeps a child tells some labels apart and not others. Those of the
endings are all different, and on every channel the announcements that came out well are counted
apart from those that did not (`hash_announced`): the last bytes of the two hashes are never equal.
Of two server addresses nothing of the kind can be said: `addresses_collide` has two that share a
child.
-/

namespace LobbyPlacement

namespace Series

variable {κ : Type} [Labels κ]

def total (s : Series κ) : Int := (s.map Prod.snd).sum

theorem value_bump (key other : κ) (s : Series κ) :
    value (s.bump key) other =
      s.value other + (decide (Labels.hash key = Labels.hash other)).toNat := by
  rw [bump, value_update]
  by_cases same : Labels.hash other = Labels.hash key
  · simp [value, same]
  · simp [same, Ne.symm same]

theorem total_bump (key : κ) (s : Series κ) : total (s.bump key) = s.total + 1 := by
  unfold bump total
  induction s with
  | nil => rfl
  | cons entry rest ih =>
    unfold update
    split
    · simp only [List.map_cons, List.sum_cons]
      omega
    · simp only [List.map_cons, List.sum_cons, ih]
      omega

end Series

theorem Ending.hash_inj {first second : Ending} :
    Labels.hash first = Labels.hash second ↔ first = second := by
  cases first <;> cases second <;> decide +kernel

namespace Labels

/-- The last byte of a hash, one byte of the text later. -/
def absorbLast (last byte : UInt8) : UInt8 := (last ^^^ byte) * 0xb3

theorem toUInt8_absorb (hash : UInt64) (byte : UInt8) :
    (absorb hash byte).toUInt8 = absorbLast hash.toUInt8 byte := by
  simp only [absorb, UInt64.toUInt8_mul, UInt64.toUInt8_xor, UInt8.toUInt8_toUInt64]
  rfl

theorem toUInt8_absorbed (bytes : Text.Utf8.Bytes) (hash : UInt64) :
    (bytes.foldl absorb hash).toUInt8 = bytes.foldl absorbLast hash.toUInt8 := by
  induction bytes generalizing hash with
  | nil => rfl
  | cons byte rest ih => rw [List.foldl_cons, List.foldl_cons, ih, toUInt8_absorb]

/-- The last byte of a hash after how an announcement came out. -/
def lastOf (last : UInt8) (confirmed : Bool) : UInt8 :=
  (Text.Utf8.encode (Metrics.statusLabel confirmed)).foldl absorbLast last

theorem lastOf_ne (last : UInt8) : lastOf last true ≠ lastOf last false := by
  have each : ∀ n < 256, lastOf (.ofNat n) true ≠ lastOf (.ofNat n) false := by decide +kernel
  have mine := each last.toNat last.toNat_lt
  rwa [UInt8.ofNat_toNat] at mine

/-- Whether an announcement came out well is told apart on every channel. -/
theorem hash_announced (channel : String) {first second : Bool} :
    hash (channel, first) = hash (channel, second) ↔ first = second := by
  constructor
  · intro same
    let before := hashBytes (Text.Utf8.encode channel)
    have last : ∀ confirmed, (hash (channel, confirmed)).toUInt8 =
        lastOf before.toUInt8 confirmed := by
      intro confirmed
      simp only [hash, values, hashBytes, List.flatMap_cons, List.flatMap_nil, List.append_nil,
        List.foldl_append]
      exact toUInt8_absorbed _ _
    have lasts := congrArg UInt64.toUInt8 same
    rw [last, last] at lasts
    cases first <;> cases second
    · rfl
    · exact (lastOf_ne _ lasts.symm).elim
    · exact (lastOf_ne _ lasts).elim
    · rfl
  · exact congrArg fun confirmed => hash (channel, confirmed)

/-- Two addresses that share a child: both have the hash nought. -/
theorem addresses_collide :
    hash "77kepQFQ8Kl" = hash "!0IC=VloaY" ∧ "77kepQFQ8Kl" ≠ "!0IC=VloaY" := by
  decide +kernel

end Labels

end LobbyPlacement
