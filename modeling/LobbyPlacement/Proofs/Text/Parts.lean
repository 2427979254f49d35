import LobbyPlacement.Text.Numeral
import LobbyPlacement.Text.Split

/-!
# Texts put together

What is read back of a text that was put together: the two halves around a separator, the text
around a word that is replaced, and a number in its decimal digits (`numeral?_decimal`). A separator
must not stand in the half on whose side it is looked for; in the other half it does no harm.
-/

namespace LobbyPlacement.Text

/-! ### Halves -/

section Halves

variable {separator : Char} {front back cs : List Char}

theorem cutFirst?_append (free : separator ∉ front) (back : List Char) :
    cutFirst? separator (front ++ separator :: back) = some (front, back) := by
  induction front with
  | nil => simp [cutFirst?]
  | cons c rest ih =>
    rw [List.mem_cons, not_or] at free
    rw [List.cons_append, cutFirst?, if_neg (Ne.symm free.1), ih free.2]
    rfl

theorem eq_append_of_cutFirst? (cut : cutFirst? separator cs = some (front, back)) :
    cs = front ++ separator :: back := by
  induction cs generalizing front with
  | nil => cases cut
  | cons c rest ih =>
    rw [cutFirst?] at cut
    split at cut
    next same =>
      cases cut
      rw [same, List.nil_append]
    next =>
      obtain ⟨⟨before, after⟩, cutRest, same⟩ := Option.map_eq_some_iff.mp cut
      cases same
      rw [ih cutRest, List.cons_append]

theorem cutFirst?_eq_none (free : separator ∉ cs) : cutFirst? separator cs = none := by
  induction cs with
  | nil => rfl
  | cons c rest ih =>
    rw [List.mem_cons, not_or] at free
    rw [cutFirst?, if_neg (Ne.symm free.1), ih free.2]
    rfl

theorem cutLast?_append (front : List Char) (free : separator ∉ back) :
    cutLast? separator (front ++ separator :: back) = some (front, back) := by
  have turned : (front ++ separator :: back).reverse =
      back.reverse ++ separator :: front.reverse := by simp
  rw [cutLast?, turned, cutFirst?_append (by simpa using free)]
  simp

theorem cutLast?_eq_none (free : separator ∉ cs) : cutLast? separator cs = none := by
  rw [cutLast?, cutFirst?_eq_none (by simpa using free)]
  rfl

/-- A text is cut at the last of its separators. -/
theorem exists_last (held : separator ∈ cs) :
    ∃ front back, cs = front ++ separator :: back ∧ separator ∉ back := by
  obtain ⟨before, after, turned, free⟩ :=
    List.eq_append_cons_of_mem (List.mem_reverse.mpr held)
  refine ⟨after.reverse, before.reverse, ?_, by simpa using free⟩
  rw [← cs.reverse_reverse, turned]
  simp

end Halves

/-! ### Words -/

section Words

variable {word new cs : List Char}

theorem afterWord?_isSome : (afterWord? word cs).isSome = true ↔ word <+: cs := by
  induction word generalizing cs with
  | nil => simp [afterWord?]
  | cons w word ih =>
    cases cs with
    | nil => simp [afterWord?]
    | cons c rest =>
      rw [afterWord?, List.cons_prefix_cons]
      by_cases same : w = c
      · simp [same, ih]
      · simp [same]

theorem afterWord?_append (word rest : List Char) : afterWord? word (word ++ rest) = some rest := by
  induction word with
  | nil => rfl
  | cons w word ih => rw [List.cons_append, afterWord?, if_pos rfl, ih]

theorem replaceFrom_eq (count : Nat) :
    replaceFrom word new count cs = replaceWord word new (cs.drop count) := by
  induction count generalizing cs with
  | zero => rfl
  | succ count ih =>
    cases cs with
    | nil => rfl
    | cons c rest => exact ih

theorem replaceWord_append (nonempty : word ≠ []) (rest : List Char) :
    replaceWord word new (word ++ rest) = new ++ replaceWord word new rest := by
  cases word with
  | nil => exact (nonempty rfl).elim
  | cons w word =>
    have found : (afterWord? (w :: word) (w :: (word ++ rest))).isSome = true :=
      afterWord?_isSome.mpr (List.prefix_append (w :: word) rest)
    rw [List.cons_append, replaceWord, replaceFrom, found, replaceFrom_eq]
    simp

theorem replaceWord_cons {c : Char} {rest : List Char} (other : ¬ word <+: c :: rest) :
    replaceWord word new (c :: rest) = c :: replaceWord word new rest := by
  have missing : (afterWord? word (c :: rest)).isSome = false := by
    rw [← Bool.not_eq_true, afterWord?_isSome]
    exact other
  rw [replaceWord, replaceFrom, missing]
  rfl

/-- A character that replaces nothing was there before. -/
theorem eq_cons_of_replaceWord {mark d : Char} {ds : List Char} (kept : d ≠ mark)
    (replaced : replaceWord word [mark] cs = d :: ds) :
    ∃ rest, cs = d :: rest ∧ ds = replaceWord word [mark] rest := by
  cases cs with
  | nil => cases replaced
  | cons c rest =>
    rw [replaceWord, replaceFrom] at replaced
    split at replaced
    · exact absurd (List.cons.inj replaced).1.symm kept
    · obtain ⟨rfl, rfl⟩ := List.cons.inj replaced
      exact ⟨rest, rfl, rfl⟩

end Words

/-! ### Numerals -/

theorem digitValue?_of_isDigit {c : Char} (digit : c.isDigit = true) :
    digitValue? c = some (c.toNat - '0'.toNat) := by
  simp only [Char.isDigit, Bool.and_eq_true, decide_eq_true_eq] at digit
  rw [digitValue?, if_pos]
  simp only [Bool.and_eq_true, decide_eq_true_eq]
  exact ⟨digit.1, digit.2⟩

theorem digitsValue?_eq {cs : List Char} (digits : ∀ c ∈ cs, c.isDigit = true) (value : Nat) :
    digitsValue? value cs = some (Nat.ofDigitChars 10 cs value) := by
  induction cs generalizing value with
  | nil => rw [digitsValue?, Nat.ofDigitChars_nil]
  | cons c rest ih =>
    rw [List.forall_mem_cons] at digits
    rw [digitsValue?, digitValue?_of_isDigit digits.1, Option.bind_some, ih digits.2,
      Nat.ofDigitChars_cons, Nat.mul_comm]

theorem isDigit_of_mem_decimal {n : Nat} {c : Char} (written : c ∈ (decimal n).toList) :
    c.isDigit = true := by
  rw [decimal, String.toList_ofList] at written
  exact Nat.isDigit_of_mem_toDigits (by decide) (by decide) written

/-- A number is read back from its decimal digits. -/
theorem numeral?_decimal {n largest : Nat} (fits : n ≤ largest) :
    numeral? largest (decimal n).toList = some n := by
  have digits := fun c => isDigit_of_mem_decimal (n := n) (c := c)
  rw [decimal, String.toList_ofList] at digits ⊢
  have value : digitsValue? 0 (Nat.toDigits 10 n) = some n := by
    rw [digitsValue?_eq digits, Nat.ofDigitChars_ten_toDigits]
  cases written : Nat.toDigits 10 n with
  | nil => exact (Nat.toDigits_ne_nil written).elim
  | cons c rest =>
    have unsigned : c ≠ '+' := by
      rintro rfl
      exact absurd (digits '+' (written ▸ List.mem_cons_self)) (by decide)
    rw [written] at value
    rw [numeral?, value]
    · simp [fits]
    · exact fun _ same => unsigned (List.cons.inj same).1
    · exact List.cons_ne_nil c rest

end LobbyPlacement.Text
