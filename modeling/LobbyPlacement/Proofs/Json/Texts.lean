import LobbyPlacement.Proofs.Json.Quoting

/-!
# Lists of texts read back

A list of texts that is written is read as these texts (`expectTexts_written`). `textsFrom_items`
goes through the items, each with the comma in front of it.
-/

namespace LobbyPlacement.JsonText

open Text.Utf8 (Bytes encode encode_append)

/-- Written items and what follows them, with the comma that all but the first have in front. -/
def itemBytes (first : Bool) : List String → Bytes → Bytes
  | [], last => last
  | s :: more, last =>
    (if first then [] else [44]) ++ (encode (Json.quote s) ++ itemBytes false more last)

/-! ### Writing -/

theorem compactItems_texts (texts : List String) :
    Json.compactItems (texts.map .text) = texts.map Json.quote := by
  induction texts with
  | nil => rfl
  | cons s more ih => rw [List.map_cons, Json.compactItems, ih, Json.compact, List.map_cons]

theorem encode_quotes (texts : List String) (last : Bytes) :
    encode (",".intercalate (texts.map Json.quote)) ++ last = itemBytes true texts last := by
  induction texts with
  | nil => rfl
  | cons s more ih =>
    cases more with
    | nil =>
      simp only [List.map_singleton, String.intercalate_singleton, itemBytes, if_true,
        List.nil_append]
    | cons next more =>
      have comma : encode "," = [44] := by decide
      have later : itemBytes false (next :: more) last = 44 :: itemBytes true (next :: more) last :=
        rfl
      rw [itemBytes, later, ← ih]
      simp only [List.map_cons, String.intercalate_cons_cons, encode_append, comma, if_true,
        List.append_assoc, List.nil_append, List.cons_append]

theorem encode_texts (texts : List String) :
    encode (Json.list (texts.map .text)).compact = 91 :: itemBytes true texts [93] := by
  have opening : encode "[" = [91] := by decide
  have closing : encode "]" = [93] := by decide
  rw [Json.compact, compactItems_texts, encode_append, encode_append, opening, closing,
    List.append_assoc, encode_quotes]
  rfl

/-! ### Reading -/

theorem nextItem_first (input : Bytes) :
    nextItem true (34 :: input) = .ok (some ⟨34 :: input, Nat.le_refl _⟩) := rfl

theorem nextItem_later (input : Bytes) :
    nextItem false (44 :: 34 :: input) = .ok (some ⟨34 :: input, Nat.le_succ _⟩) := rfl

theorem nextItem_end (first : Bool) (last : Bytes) : nextItem first (93 :: last) = .ok none := rfl

/-- Behind its comma a written item is found and read. -/
theorem nextItem_text (first : Bool) (s : String) (last : Bytes) :
    ∃ item, nextItem first ((if first then [] else [44]) ++ (encode (Json.quote s) ++ last)) =
        .ok (some item) ∧
      ∃ shorter, expectText item.1 = .ok (s, ⟨last, shorter⟩) := by
  obtain ⟨input, quoted, -⟩ := encode_quote s last
  have read := expectText_quote s last
  rw [quoted] at read ⊢
  cases first with
  | true => exact ⟨_, nextItem_first input, read⟩
  | false => exact ⟨_, nextItem_later input, read⟩

theorem textsFrom_items (first : Bool) (texts : List String) (last : Bytes) :
    textsFrom first (itemBytes first texts (93 :: last)) = .ok (texts, 93 :: last) := by
  induction texts generalizing first with
  | nil => rw [itemBytes, textsFrom, nextItem_end]
  | cons s more ih =>
    obtain ⟨item, found, shorter, read⟩ :=
      nextItem_text first s (itemBytes false more (93 :: last))
    rw [itemBytes, textsFrom, found]
    simp only [read, ih false]
    rfl

theorem expectTexts_written (texts : List String) :
    expectTexts (encode (Json.list (texts.map .text)).compact) = .ok (texts, []) := by
  have front : skipBlanks (91 :: itemBytes true texts [93]) = 91 :: itemBytes true texts [93] := rfl
  rw [encode_texts, expectTexts, front]
  simp only [if_true, textsFrom_items]
  rfl

end LobbyPlacement.JsonText
