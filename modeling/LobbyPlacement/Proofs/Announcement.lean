import LobbyPlacement.Announcement
import LobbyPlacement.Proofs.Json.Quoting

/-!
# Announcements read back

An announcement is written as a record of two fields. Whatever texts they hold, `decode_encode`
finds them again in its bytes.
-/

namespace LobbyPlacement.Announcement

open JsonText Text.Utf8

theorem encode_eq (a : Announcement) :
    a.encode =
      123 :: fieldBytes true lobbyField a.lobby (fieldBytes false serverField a.server [125]) := by
  have written : a.json.compact = "\x7b" ++ (Json.quote lobbyField ++ ":" ++ Json.quote a.lobby) ++
      "," ++ (Json.quote serverField ++ ":" ++ Json.quote a.server) ++ "\x7d" := by
    simp only [json, Json.compact, Json.compactFields, String.intercalate_cons_cons,
      String.intercalate_singleton, String.append_assoc]
  have opening : Text.Utf8.encode "\x7b" = [123] := by decide
  have colon : Text.Utf8.encode ":" = [58] := by decide
  have comma : Text.Utf8.encode "," = [44] := by decide
  have closing : Text.Utf8.encode "\x7d" = [125] := by decide
  rw [encode, written]
  simp only [encode_append, fieldBytes, opening, colon, comma, closing, List.append_assoc, if_true,
    List.nil_append, List.cons_append, Bool.false_eq_true, if_false]

/-- A field that was not read before is taken, and reading goes on behind it. -/
theorem fieldsFrom_field {first : Bool} {lobby server : Option String} (name value : String)
    (last : Bytes)
    (unread : name = lobbyField ∧ lobby = none ∨ name = serverField ∧ server = none) :
    fieldsFrom first lobby server (fieldBytes first name value last) =
      if name = lobbyField then fieldsFrom false (some value) server last
      else fieldsFrom false lobby (some value) last := by
  obtain ⟨opened, next, named, read, colon, after, shorter, expected⟩ :=
    field_reads first name value last
  have different : serverField ≠ lobbyField := by decide
  rw [fieldsFrom.eq_def]
  simp only [next, read, after, expected]
  rcases unread with ⟨rfl, rfl⟩ | ⟨rfl, rfl⟩
  · simp [different.symm]
  · simp [different]

theorem fieldsFrom_end (lobby server : String) :
    fieldsFrom false (some lobby) (some server) [125] = .ok (⟨lobby, server⟩, [125]) := by
  rw [fieldsFrom]
  rfl

theorem decode_encode (a : Announcement) : decode a.encode = .ok a := by
  have fields : fieldsFrom true none none (fieldBytes true lobbyField a.lobby
      (fieldBytes false serverField a.server [125])) = .ok (a, [125]) := by
    rw [fieldsFrom_field lobbyField _ _ (.inl ⟨rfl, rfl⟩), if_pos rfl,
      fieldsFrom_field serverField _ _ (.inr ⟨rfl, rfl⟩), if_neg (by decide), fieldsFrom_end]
  rw [encode_eq]
  generalize fieldBytes true lobbyField a.lobby (fieldBytes false serverField a.server [125]) =
    input at fields
  have front : skipBlanks (123 :: input) = 123 :: input := rfl
  have noList : ¬ (123 : UInt8) = 91 := by decide
  rw [decode, read, front]
  simp only [noList, if_false, if_true, fields]
  rfl

/-- A payload tells which announcement it is of: it is read back as that one, and no other has the
same payload. -/
theorem payload_tells_announcement (lobby server : String) :
    decode (encode ⟨lobby, server⟩) = .ok ⟨lobby, server⟩ ∧
      ∀ other : Announcement, other.encode = encode ⟨lobby, server⟩ ↔ other = ⟨lobby, server⟩ := by
  refine ⟨decode_encode ⟨lobby, server⟩, fun other => ⟨fun same => ?_, fun same => same ▸ rfl⟩⟩
  have read : decode other.encode = .ok ⟨lobby, server⟩ := by
    rw [same]
    exact decode_encode ⟨lobby, server⟩
  rw [decode_encode] at read
  exact Except.ok.inj read

end LobbyPlacement.Announcement
