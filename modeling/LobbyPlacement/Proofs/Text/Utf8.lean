import LobbyPlacement.Text.Utf8

/-!
# Bytes of a text

A text that is encoded and decoded again is the same text. `next_encodeChar` reads one character
back, with whatever follows it; `decode_encode` iterates it.
-/

namespace LobbyPlacement.Text.Utf8

theorem toNat_byte {n : Nat} (small : n < 256) : (UInt8.ofNat n).toNat = n :=
  UInt8.toNat_ofNat_of_lt' small

theorem isContinuation_of_toNat {b : UInt8} {n : Nat} (six_bits : b.toNat = n % 64 + 128) :
    isContinuation b = true := by
  simp only [isContinuation, UInt8.le_iff_toNat_le, UInt8.reduceToNat, Bool.and_eq_true,
    decide_eq_true_eq]
  omega

/-! ### One character -/

theorem next_one {v : Nat} (high : v ≤ 0x7f) (rest : Bytes) :
    next (UInt8.ofNat v :: rest) = .scalar (Char.ofNat v) 1 := by
  have lead := toNat_byte (show v < 256 by omega)
  have small : UInt8.ofNat v < 0x80 := by
    rw [UInt8.lt_iff_toNat_lt, lead]
    exact Nat.lt_succ_of_le high
  simp only [next, small, if_true, lead]

theorem next_two {v : Nat} (low : 0x7f < v) (high : v ≤ 0x7ff) (rest : Bytes) :
    next (UInt8.ofNat (v / 64 % 32 + 192) :: UInt8.ofNat (v % 64 + 128) :: rest) =
      .scalar (Char.ofNat v) 2 := by
  have lead := toNat_byte (show v / 64 % 32 + 192 < 256 by omega)
  have second := toNat_byte (show v % 64 + 128 < 256 by omega)
  generalize UInt8.ofNat (v / 64 % 32 + 192) = b at lead ⊢
  generalize UInt8.ofNat (v % 64 + 128) = c at second ⊢
  have value : (b.toNat % 32) * 64 + c.toNat % 64 = v := by omega
  simp only [next, isContinuation_of_toNat second, scalarValue, List.foldl_cons, List.foldl_nil,
    value, UInt8.lt_iff_toNat_lt, UInt8.le_iff_toNat_le, UInt8.reduceToNat, Bool.and_eq_true,
    decide_eq_true_eq, if_true]
  rw [if_neg (by omega), if_pos (by omega)]

theorem next_three {v : Nat} (low : 0x7ff < v) (high : v ≤ 0xffff)
    (scalar : v < 0xd800 ∨ 0xdfff < v) (rest : Bytes) :
    next (UInt8.ofNat (v / 4096 % 16 + 224) :: UInt8.ofNat (v / 64 % 64 + 128) ::
        UInt8.ofNat (v % 64 + 128) :: rest) =
      .scalar (Char.ofNat v) 3 := by
  have lead := toNat_byte (show v / 4096 % 16 + 224 < 256 by omega)
  have second := toNat_byte (show v / 64 % 64 + 128 < 256 by omega)
  have third := toNat_byte (show v % 64 + 128 < 256 by omega)
  generalize UInt8.ofNat (v / 4096 % 16 + 224) = b at lead ⊢
  generalize UInt8.ofNat (v / 64 % 64 + 128) = c at second ⊢
  generalize UInt8.ofNat (v % 64 + 128) = d at third ⊢
  have value : ((b.toNat % 16) * 64 + c.toNat % 64) * 64 + d.toNat % 64 = v := by omega
  -- Over-long forms and surrogates are what the narrower ranges of the second byte keep out.
  have fits : secondFits b c = true := by
    simp only [secondFits, isContinuation, ← UInt8.toNat_inj, UInt8.le_iff_toNat_le,
      UInt8.reduceToNat]
    repeat' split
    all_goals simp only [Bool.and_eq_true, decide_eq_true_eq]; omega
  simp only [next, fits, isContinuation_of_toNat third, scalarValue, List.foldl_cons,
    List.foldl_nil, value, UInt8.lt_iff_toNat_lt, UInt8.le_iff_toNat_le, UInt8.reduceToNat,
    Bool.and_eq_true, decide_eq_true_eq, Bool.not_true, Bool.false_eq_true, if_false, if_true]
  rw [if_neg (by omega), if_neg (by omega), if_pos (by omega)]

theorem next_four {v : Nat} (low : 0xffff < v) (high : v < 0x110000) (rest : Bytes) :
    next (UInt8.ofNat (v / 262144 % 8 + 240) :: UInt8.ofNat (v / 4096 % 64 + 128) ::
        UInt8.ofNat (v / 64 % 64 + 128) :: UInt8.ofNat (v % 64 + 128) :: rest) =
      .scalar (Char.ofNat v) 4 := by
  have lead := toNat_byte (show v / 262144 % 8 + 240 < 256 by omega)
  have second := toNat_byte (show v / 4096 % 64 + 128 < 256 by omega)
  have third := toNat_byte (show v / 64 % 64 + 128 < 256 by omega)
  have fourth := toNat_byte (show v % 64 + 128 < 256 by omega)
  generalize UInt8.ofNat (v / 262144 % 8 + 240) = b at lead ⊢
  generalize UInt8.ofNat (v / 4096 % 64 + 128) = c at second ⊢
  generalize UInt8.ofNat (v / 64 % 64 + 128) = d at third ⊢
  generalize UInt8.ofNat (v % 64 + 128) = e at fourth ⊢
  have value : (((b.toNat % 8) * 64 + c.toNat % 64) * 64 + d.toNat % 64) * 64 +
      e.toNat % 64 = v := by omega
  have fits : secondFits b c = true := by
    simp only [secondFits, isContinuation, ← UInt8.toNat_inj, UInt8.le_iff_toNat_le,
      UInt8.reduceToNat]
    repeat' split
    all_goals simp only [Bool.and_eq_true, decide_eq_true_eq]; omega
  simp only [next, fits, isContinuation_of_toNat third, isContinuation_of_toNat fourth, scalarValue,
    List.foldl_cons, List.foldl_nil, value, UInt8.lt_iff_toNat_lt, UInt8.le_iff_toNat_le,
    UInt8.reduceToNat, Bool.and_eq_true, decide_eq_true_eq, Bool.not_true, Bool.false_eq_true,
    if_false, if_true]
  rw [if_neg (by omega), if_neg (by omega), if_neg (by omega), if_pos (by omega)]

theorem next_encodeChar (c : Char) (rest : Bytes) :
    next (String.utf8EncodeChar c ++ rest) = .scalar c (String.utf8EncodeChar c).length := by
  have scalar : c.toNat < 0xd800 ∨ 0xdfff < c.toNat ∧ c.toNat < 0x110000 := c.valid
  have same := Char.ofNat_toNat c
  unfold String.utf8EncodeChar
  change c.val.toNat < _ ∨ _ < c.val.toNat ∧ c.val.toNat < _ at scalar
  change Char.ofNat c.val.toNat = c at same
  generalize c.val.toNat = v at scalar same ⊢
  subst same
  dsimp only
  split
  · exact next_one ‹_› rest
  split
  · exact next_two (by omega) ‹_› rest
  split
  · exact next_three (by omega) ‹_› (by omega) rest
  · exact next_four (by omega) (by omega) rest

/-! ### Whole texts -/

theorem decodeFrom_skip (position : Nat) (front rest : Bytes) :
    decodeFrom position front.length (front ++ rest) =
      decodeFrom (position + front.length) 0 rest := by
  induction front generalizing position with
  | nil => rfl
  | cons b front ih =>
    have later := ih (position + 1)
    rw [show position + 1 + front.length = position + (b :: front).length by
      rw [List.length_cons]; omega] at later
    exact later

theorem decodeFrom_encodeChar (position : Nat) (c : Char) (rest : Bytes) :
    decodeFrom position 0 (String.utf8EncodeChar c ++ rest) =
      (decodeFrom (position + (String.utf8EncodeChar c).length) 0 rest).map (c :: ·) := by
  have read := next_encodeChar c rest
  cases bytes : String.utf8EncodeChar c with
  | nil => exact (String.utf8EncodeChar_ne_nil bytes).elim
  | cons b front =>
    rw [bytes] at read
    have skipped := decodeFrom_skip (position + 1) front rest
    simp only [List.cons_append, List.length_cons, decodeFrom] at read ⊢
    rw [read]
    simp only [Nat.add_sub_cancel, skipped]
    rw [Nat.add_assoc, Nat.add_comm 1]

theorem decodeFrom_encode (position : Nat) (cs : List Char) :
    decodeFrom position 0 (cs.flatMap String.utf8EncodeChar) = .ok cs := by
  induction cs generalizing position with
  | nil => rfl
  | cons c rest ih =>
    rw [List.flatMap_cons, decodeFrom_encodeChar, ih]
    rfl

theorem decode_encode (s : String) : decode (encode s) = .ok s := by
  rw [decode, encode, decodeFrom_encode]
  exact congrArg Except.ok String.ofList_toList

theorem encode_append (s t : String) : encode (s ++ t) = encode s ++ encode t := by
  rw [encode, String.toList_append, List.flatMap_append]
  rfl

end LobbyPlacement.Text.Utf8
