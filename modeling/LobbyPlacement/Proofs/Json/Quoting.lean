import LobbyPlacement.Json.Reader
import LobbyPlacement.Json.Value
import LobbyPlacement.Proofs.Text.Utf8

/-!
# Quoted texts read back

What `Json.quote` writes is read as the text it was written for, whatever the text holds and
whatever follows it. `quoted_escapeChar` is the step for one character, escaped or not.
-/

namespace LobbyPlacement.JsonText

open Text.Utf8 (Bytes encode)

/-- Behind an opening quote stands a text of these bytes, and `last` behind its closing quote. -/
def Quoted (input bytes last : Bytes) : Prop :=
  ∃ shorter, textBytes input = .ok (bytes, ⟨last, shorter⟩)

theorem quoted_close (last : Bytes) : Quoted (34 :: last) [] last :=
  ⟨Nat.lt_succ_self _, by rw [textBytes, if_pos rfl]⟩

/-- A byte that stands for itself inside quotes. -/
def IsPlain (b : UInt8) : Prop := b ≠ 34 ∧ b ≠ 92 ∧ ¬ b < 32

theorem quoted_plain {b : UInt8} (plain : IsPlain b) {rest bytes last : Bytes}
    (quoted : Quoted rest bytes last) : Quoted (b :: rest) (b :: bytes) last := by
  obtain ⟨shorter, read⟩ := quoted
  obtain ⟨no_quote, no_backslash, no_control⟩ := plain
  refine ⟨Nat.lt_trans shorter (Nat.lt_succ_self _), ?_⟩
  rw [textBytes, if_neg no_quote, if_neg no_backslash, if_neg no_control, read]

theorem quoted_plains {front : Bytes} (plain : ∀ b ∈ front, IsPlain b) {rest bytes last : Bytes}
    (quoted : Quoted rest bytes last) : Quoted (front ++ rest) (front ++ bytes) last := by
  induction front with
  | nil => exact quoted
  | cons b front ih =>
    exact quoted_plain (plain b List.mem_cons_self)
      (ih fun b member => plain b (List.mem_cons_of_mem _ member))

theorem quoted_escaped {input front after bytes last : Bytes} {bound : after.length ≤ input.length}
    (escape : escaped input = .ok (front, ⟨after, bound⟩)) (quoted : Quoted after bytes last) :
    Quoted (92 :: input) (front ++ bytes) last := by
  obtain ⟨shorter, read⟩ := quoted
  refine ⟨Nat.lt_of_lt_of_le shorter (Nat.le_trans bound (Nat.le_succ _)), ?_⟩
  rw [textBytes, if_neg (by decide), if_pos rfl, escape]
  simp only [read]

/-! ### The escapes of a character -/

theorem isPlain_of_toNat {b : UInt8} (no_quote : b.toNat ≠ 34) (no_backslash : b.toNat ≠ 92)
    (no_control : 32 ≤ b.toNat) : IsPlain b := by
  refine ⟨?_, ?_, ?_⟩
  · rintro rfl
    exact no_quote rfl
  · rintro rfl
    exact no_backslash rfl
  · rw [UInt8.lt_iff_toNat_lt]
    exact Nat.not_lt.mpr no_control

theorem isPlain_encodeChar {c : Char} (no_quote : c ≠ '"') (no_backslash : c ≠ '\\')
    (no_control : ¬ c.toNat < 32) : ∀ b ∈ String.utf8EncodeChar c, IsPlain b := by
  have quote : c.toNat ≠ 34 := fun same => no_quote (Char.toNat_inj.mp same)
  have backslash : c.toNat ≠ 92 := fun same => no_backslash (Char.toNat_inj.mp same)
  change c.val.toNat ≠ 34 at quote
  change c.val.toNat ≠ 92 at backslash
  change ¬ c.val.toNat < 32 at no_control
  unfold String.utf8EncodeChar
  generalize c.val.toNat = v at quote backslash no_control ⊢
  have far : ∀ n, 128 ≤ n → n < 256 → IsPlain (UInt8.ofNat n) := by
    intro n low high
    have value := Text.Utf8.toNat_byte high
    exact isPlain_of_toNat (by omega) (by omega) (by omega)
  dsimp only
  split
  · have value := Text.Utf8.toNat_byte (show v < 256 by omega)
    intro b member
    obtain rfl := List.mem_singleton.mp member
    exact isPlain_of_toNat (by omega) (by omega) (by omega)
  repeat' split
  all_goals
    intro b member
    simp only [List.mem_cons, List.not_mem_nil, or_false] at member
  · rcases member with rfl | rfl <;> exact far _ (by omega) (by omega)
  · rcases member with rfl | rfl | rfl <;> exact far _ (by omega) (by omega)
  · rcases member with rfl | rfl | rfl | rfl <;> exact far _ (by omega) (by omega)

theorem escaped_short {b byte : UInt8} (letter : b ≠ 117) (short : shortEscape? b = some byte)
    (rest : Bytes) : escaped (b :: rest) = .ok ([byte], ⟨rest, Nat.le_succ _⟩) := by
  simp only [escaped, if_neg letter, short]

def hexByte (n : Nat) : UInt8 := (String.utf8EncodeChar (Json.hexDigit n)).headD 0

theorem hexByte_spec : ∀ n < 16,
    String.utf8EncodeChar (Json.hexDigit n) = [hexByte n] ∧ hexValue? (hexByte n) = some n := by
  decide

theorem hexDigit_mod (n : Nat) : Json.hexDigit n = Json.hexDigit (n % 16) := by
  unfold Json.hexDigit
  rw [Nat.mod_mod]

theorem escaped_control {n : Nat} (small : n < 32) (rest : Bytes) :
    escaped (117 :: 48 :: 48 :: hexByte (n / 16) :: hexByte (n % 16) :: rest) =
      .ok (String.utf8EncodeChar (Char.ofNat n),
        ⟨rest, by simp only [List.length_cons]; omega⟩) := by
  have high := (hexByte_spec (n / 16) (by omega)).2
  have low := (hexByte_spec (n % 16) (by omega)).2
  have zero : hexValue? 48 = some 0 := rfl
  have value : ((0 * 16 + 0) * 16 + n / 16) * 16 + n % 16 = n := by omega
  have trailing : isTrailing n = false := by
    simp only [isTrailing, Bool.and_eq_false_iff, decide_eq_false_iff_not]
    omega
  have leading : isLeading n = false := by
    simp only [isLeading, Bool.and_eq_false_iff, decide_eq_false_iff_not]
    omega
  simp only [escaped, if_true, numericEscape, fourHex, zero, high, low, value, trailing, leading,
    Bool.false_eq_true, if_false, Except.map]

/-- One more character in front of a quoted text. -/
theorem quoted_escapeChar (c : Char) {rest bytes last : Bytes} (quoted : Quoted rest bytes last) :
    Quoted ((Json.escapeChar c).flatMap String.utf8EncodeChar ++ rest)
      (String.utf8EncodeChar c ++ bytes) last := by
  have short : ∀ b byte, b ≠ 117 → shortEscape? b = some byte →
      Quoted (92 :: b :: rest) ([byte] ++ bytes) last := fun b byte letter escape =>
    quoted_escaped (escaped_short letter escape rest) quoted
  unfold Json.escapeChar
  split
  · subst_vars
    exact short 34 34 (by decide) rfl
  split
  · subst_vars
    exact short 92 92 (by decide) rfl
  split
  · subst_vars
    exact short 110 10 (by decide) rfl
  split
  · subst_vars
    exact short 114 13 (by decide) rfl
  split
  · subst_vars
    exact short 116 9 (by decide) rfl
  split
  next same =>
    obtain rfl : c = Char.ofNat 8 := Char.toNat_inj.mp same
    exact short 98 8 (by decide) rfl
  split
  next same =>
    obtain rfl : c = Char.ofNat 12 := Char.toNat_inj.mp same
    exact short 102 12 (by decide) rfl
  split
  next small =>
    have control := quoted_escaped (escaped_control small rest) quoted
    rw [Char.ofNat_toNat] at control
    simp only [List.flatMap_cons, List.flatMap_nil, hexDigit_mod c.toNat,
      (hexByte_spec (c.toNat / 16) (by omega)).1, (hexByte_spec (c.toNat % 16) (by omega)).1]
    exact control
  next =>
    simp only [List.flatMap_cons, List.flatMap_nil, List.append_nil]
    exact quoted_plains (isPlain_encodeChar ‹_› ‹_› ‹_›) quoted

/-! ### Whole texts -/

theorem quoted_escapes (cs : List Char) (last : Bytes) :
    Quoted ((cs.flatMap Json.escapeChar).flatMap String.utf8EncodeChar ++ 34 :: last)
      (cs.flatMap String.utf8EncodeChar) last := by
  induction cs with
  | nil => exact quoted_close last
  | cons c rest ih =>
    simp only [List.flatMap_cons, List.flatMap_append, List.append_assoc]
    exact quoted_escapeChar c ih

theorem encode_quote (s : String) (last : Bytes) :
    ∃ input, encode (Json.quote s) ++ last = 34 :: input ∧
      ∃ shorter, text input = .ok (s, ⟨last, shorter⟩) := by
  obtain ⟨shorter, read⟩ := quoted_escapes s.toList last
  refine ⟨(s.toList.flatMap Json.escapeChar).flatMap String.utf8EncodeChar ++ 34 :: last, ?_,
    shorter, ?_⟩
  · simp only [encode, Json.quote, String.toList_ofList, List.cons_append, List.flatMap_cons,
      List.flatMap_append, List.append_assoc]
    rfl
  · have decoded := Text.Utf8.decode_encode s
    rw [encode] at decoded
    simp only [text, read, decoded]

theorem expectText_quote (s : String) (last : Bytes) :
    ∃ shorter, expectText (encode (Json.quote s) ++ last) = .ok (s, ⟨last, shorter⟩) := by
  obtain ⟨input, bytes, shorter, read⟩ := encode_quote s last
  rw [bytes]
  refine ⟨Nat.lt_trans shorter (Nat.lt_succ_self _), ?_⟩
  unfold expectText
  split
  next front => cases front
  next front =>
    obtain ⟨rfl, rfl⟩ := List.cons.inj front
    rw [if_pos rfl, read]
    rfl

/-! ### Fields of a record -/

theorem nextName_first (input : Bytes) :
    nextName true (34 :: input) = .ok (some ⟨input, Nat.lt_succ_self _⟩) := by
  unfold nextName
  split
  next front => cases front
  next front =>
    obtain ⟨rfl, rfl⟩ := List.cons.inj front
    rfl

theorem nextName_later (input : Bytes) :
    nextName false (44 :: 34 :: input) =
      .ok (some ⟨input, Nat.lt_trans (Nat.lt_succ_self _) (Nat.lt_succ_self _)⟩) := by
  unfold nextName
  split
  next front => cases front
  next front =>
    obtain ⟨rfl, rfl⟩ := List.cons.inj front
    simp only [Bool.false_eq_true, if_false, if_true]
    rw [if_neg (by decide)]
    split
    next second => cases second
    next second =>
      obtain ⟨rfl, rfl⟩ := List.cons.inj second
      rfl

theorem afterColon_colon (input : Bytes) :
    afterColon (58 :: input) = .ok ⟨input, Nat.lt_succ_self _⟩ := by
  unfold afterColon
  split
  next front => cases front
  next front =>
    obtain ⟨rfl, rfl⟩ := List.cons.inj front
    rfl

/-- A written field, with the comma that all but the first have in front. -/
def fieldBytes (first : Bool) (name value : String) (last : Bytes) : Bytes :=
  (if first then [] else [44]) ++ encode (Json.quote name) ++
    58 :: (encode (Json.quote value) ++ last)

/-- Reading a written field finds its name and its text, and then what follows it. -/
theorem field_reads (first : Bool) (name value : String) (last : Bytes) :
    ∃ opened, nextName first (fieldBytes first name value last) = .ok (some opened) ∧
      ∃ named, text opened.1 = .ok (name, named) ∧
      ∃ colon, afterColon named.1 = .ok colon ∧
      ∃ shorter, expectText colon.1 = .ok (value, ⟨last, shorter⟩) := by
  obtain ⟨input, bytes, shorter, read⟩ :=
    encode_quote name (58 :: (encode (Json.quote value) ++ last))
  have rest : ∃ named, text input = .ok (name, named) ∧
      ∃ colon, afterColon named.1 = .ok colon ∧
      ∃ shorter, expectText colon.1 = .ok (value, ⟨last, shorter⟩) :=
    ⟨_, read, _, afterColon_colon _, expectText_quote value last⟩
  unfold fieldBytes
  rw [List.append_assoc, bytes]
  cases first with
  | true => exact ⟨_, nextName_first input, rest⟩
  | false => exact ⟨_, nextName_later input, rest⟩

end LobbyPlacement.JsonText
