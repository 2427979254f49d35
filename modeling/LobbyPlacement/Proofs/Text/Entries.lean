import LobbyPlacement.Text.Split
import Mathlib.Data.List.DropRight

/-!
# Entries of a list

Lists written with commas, read back. What is read looks like an entry (`isEntry_of_mem`), and
entries that are joined are read again as they were (`entries_joined`), whatever blanks stand behind
the commas.
-/

namespace LobbyPlacement.Text

/-! ### Trimming -/

section Trimming

variable {lead cs : List Char}

theorem trim_append (blank : ∀ c ∈ lead, isBlank c = true) (cs : List Char) :
    trim (lead ++ cs) = trim cs := by
  rw [trim, List.dropWhile_append_of_pos blank, trim]

/-- Nothing is taken from a text without blanks at its ends. -/
theorem trim_eq_self (front : cs.head?.any isBlank = false)
    (back : cs.getLast?.any isBlank = false) : trim cs = cs := by
  have kept : cs.dropWhile isBlank = cs := by
    cases cs with
    | nil => rfl
    | cons c rest => exact List.dropWhile_cons_of_neg (ne_true_of_eq_false front)
  show (cs.dropWhile isBlank).rdropWhile isBlank = cs
  rw [kept, List.rdropWhile_eq_self_iff]
  intro nonempty
  rw [List.getLast?_eq_some_getLast nonempty] at back
  exact ne_true_of_eq_false back

theorem head?_dropWhile (cs : List Char) : (cs.dropWhile isBlank).head?.any isBlank = false := by
  have stopped := List.head?_dropWhile_not isBlank cs
  cases front : (cs.dropWhile isBlank).head? with
  | none => rfl
  | some c =>
    rw [front] at stopped
    exact stopped

theorem head?_trim (cs : List Char) : (trim cs).head?.any isBlank = false := by
  obtain ⟨back, whole⟩ := List.rdropWhile_prefix isBlank (cs.dropWhile isBlank)
  change trim cs ++ back = cs.dropWhile isBlank at whole
  have stopped := head?_dropWhile cs
  rw [← whole] at stopped
  cases front : trim cs with
  | nil => rfl
  | cons c rest =>
    rw [front] at stopped
    exact stopped

theorem getLast?_trim (cs : List Char) : (trim cs).getLast?.any isBlank = false := by
  rw [trim, List.getLast?_reverse]
  exact head?_dropWhile _

theorem mem_of_mem_trim {c : Char} (member : c ∈ trim cs) : c ∈ cs := by
  have kept := (List.rdropWhile_prefix isBlank (cs.dropWhile isBlank)).subset member
  exact (List.dropWhile_suffix isBlank).subset kept

end Trimming

/-! ### Pieces -/

section Pieces

variable {separator : Char} {cs piece : List Char}

theorem pieces_eq_splitOn (separator : Char) (cs : List Char) :
    pieces separator cs = cs.splitOn separator := by
  induction cs with
  | nil => rfl
  | cons c rest ih =>
    rw [pieces, List.splitOn_cons_eq_if_modifyHead, ih]
    by_cases same : c = separator
    · simp [same]
    · rw [if_neg same, if_neg (by simpa using same)]
      cases split : List.splitOn separator rest with
      | nil => exact (List.splitOn_ne_nil separator rest split).elim
      | cons piece more => rfl

theorem pieces_append (separator : Char) (front back : List Char) :
    pieces separator (front ++ separator :: back) =
      pieces separator front ++ pieces separator back := by
  simp only [pieces_eq_splitOn, List.splitOn_append_cons_self]

theorem pieces_of_free (free : separator ∉ cs) : pieces separator cs = [cs] := by
  rw [pieces_eq_splitOn, List.splitOn_eq_singleton free]

/-- No piece holds the separator. -/
theorem free_of_mem_pieces (member : piece ∈ pieces separator cs) : separator ∉ piece := by
  induction cs generalizing piece with
  | nil =>
    rw [List.mem_singleton.mp member]
    exact List.not_mem_nil
  | cons c rest ih =>
    rw [pieces] at member
    split at member
    next =>
      rcases List.mem_cons.mp member with rfl | later
      · exact List.not_mem_nil
      · exact ih later
    next other =>
      split at member
      next =>
        rw [List.mem_singleton.mp member, List.mem_singleton]
        exact Ne.symm other
      next first more split =>
        rw [split] at ih
        rcases List.mem_cons.mp member with rfl | later
        · rw [List.mem_cons, not_or]
          exact ⟨Ne.symm other, ih List.mem_cons_self⟩
        · exact ih (List.mem_cons_of_mem _ later)

end Pieces

/-! ### Entries -/

/-- What an entry looks like: not empty, without a comma and without a blank at either end. -/
structure IsEntry (cs : List Char) : Prop where
  nonempty : cs ≠ []
  free : ',' ∉ cs
  front : cs.head?.any isBlank = false
  back : cs.getLast?.any isBlank = false

instance (cs : List Char) : Decidable (IsEntry cs) :=
  decidable_of_iff
    (cs ≠ [] ∧ ',' ∉ cs ∧ cs.head?.any isBlank = false ∧ cs.getLast?.any isBlank = false)
    ⟨fun ⟨nonempty, free, front, back⟩ => ⟨nonempty, free, front, back⟩,
      fun entry => ⟨entry.nonempty, entry.free, entry.front, entry.back⟩⟩

section Entries

variable {lead cs entry : List Char}

theorem IsEntry.trim_eq (entry : IsEntry cs) : trim cs = cs := trim_eq_self entry.front entry.back

theorem isEntry_of_mem (member : entry ∈ entries cs) : IsEntry entry := by
  obtain ⟨trimmed, kept⟩ := List.mem_filter.mp member
  obtain ⟨piece, split, rfl⟩ := List.mem_map.mp trimmed
  refine ⟨?_, ?_, head?_trim piece, getLast?_trim piece⟩
  · simpa using kept
  · intro comma
    exact free_of_mem_pieces split (mem_of_mem_trim comma)

theorem entries_append (front back : List Char) :
    entries (front ++ ',' :: back) = entries front ++ entries back := by
  simp only [entries, pieces_append, List.map_append, List.filter_append]

theorem comma_not_mem_of_blank (blank : ∀ c ∈ lead, isBlank c = true) : ',' ∉ lead := by
  intro comma
  exact absurd (blank ',' comma) (by decide)

theorem entries_blank (blank : ∀ c ∈ lead, isBlank c = true) : entries lead = [] := by
  have nothing : trim lead = [] := by
    rw [← List.append_nil lead, trim_append blank]
    rfl
  rw [entries, pieces_of_free (comma_not_mem_of_blank blank), List.map_singleton, nothing]
  rfl

theorem entries_padded (blank : ∀ c ∈ lead, isBlank c = true) (entry : IsEntry cs) :
    entries (lead ++ cs) = [cs] := by
  have free : ',' ∉ lead ++ cs := by
    rw [List.mem_append, not_or]
    exact ⟨comma_not_mem_of_blank blank, entry.free⟩
  rw [entries, pieces_of_free free, List.map_singleton, trim_append blank, entry.trim_eq]
  exact List.filter_eq_self.mpr (by simp [entry.nonempty])

/-- Entries that are joined are read again. -/
theorem entries_joined {pad : List Char} {list : List (List Char)}
    (listed : ∀ cs ∈ list, IsEntry cs) (padBlank : ∀ c ∈ pad, isBlank c = true)
    (leadBlank : ∀ c ∈ lead, isBlank c = true) :
    entries (lead ++ (',' :: pad).intercalate list) = list := by
  -- Behind a comma its blanks lead the rest of the list, hence any `lead`.
  induction list generalizing lead with
  | nil =>
    rw [List.intercalate_nil, List.append_nil]
    exact entries_blank leadBlank
  | cons cs rest ih =>
    rw [List.forall_mem_cons] at listed
    have first := entries_padded leadBlank listed.1
    cases rest with
    | nil => rw [List.intercalate_singleton, first]
    | cons next more =>
      have later := ih listed.2 padBlank
      calc entries (lead ++ (',' :: pad).intercalate (cs :: next :: more))
          = entries ((lead ++ cs) ++ ',' :: (pad ++ (',' :: pad).intercalate (next :: more))) := by
            simp only [List.intercalate_cons_cons, List.append_assoc, List.cons_append]
        _ = cs :: next :: more := by
            rw [entries_append, first, later]
            rfl

end Entries

/-! ### Entries as texts -/

theorem isEntry_of_mem_splitEntries {text entry : String} (member : entry ∈ splitEntries text) :
    IsEntry entry.toList := by
  obtain ⟨cs, listed, rfl⟩ := List.mem_map.mp member
  rw [String.toList_ofList]
  exact isEntry_of_mem listed

theorem splitEntries_joined {separator : String} {list : List String}
    (listed : ∀ entry ∈ list, IsEntry entry.toList) {pad : List Char}
    (comma : separator.toList = ',' :: pad) (blank : ∀ c ∈ pad, isBlank c = true) :
    splitEntries (separator.intercalate list) = list := by
  have read := entries_joined (List.forall_mem_map.mpr listed) blank (List.forall_mem_nil _)
  rw [List.nil_append, ← comma, ← String.toList_intercalate] at read
  rw [splitEntries, read, List.map_map]
  exact List.map_id'' (fun _ => String.ofList_toList) list

end LobbyPlacement.Text
