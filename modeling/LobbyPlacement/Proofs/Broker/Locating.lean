import LobbyPlacement.Broker.Address
import LobbyPlacement.Proofs.Text.Parts

/-!
# Broker URLs

What is read of a URL that was written from its parts. Credentials may hold any of the marks that
part a URL, for they end at its last `@`; `written_parts_are_read` says that all parts come back.
The last `@` is looked for in the virtual host as well, so one that stands there is taken for the
end of credentials: `uncredited_iff_unmarked`.
-/

namespace LobbyPlacement

open Text

/-- A URL by its parts, as they are written in it. Only the host must be there. -/
structure BrokerUrl where
  credentials : Option (String × Option String)
  host : String
  port : Option Nat
  vhost : Option String

namespace BrokerUrl

/-- A part that may be left out, and with it the mark before it. -/
def behind (mark : String) : Option String → String
  | none => ""
  | some part => mark ++ part

@[simp]
theorem behind_none (mark : String) : behind mark none = "" := rfl

@[simp]
theorem behind_some (mark part : String) : behind mark (some part) = mark ++ part := rfl

def credentialsText : Option (String × Option String) → String
  | none => ""
  | some (username, password) => username ++ behind ":" password ++ "@"

/-- The host and everything after it. -/
def located (u : BrokerUrl) : String :=
  u.host ++ behind ":" (u.port.map decimal) ++ behind "/" u.vhost

def text (u : BrokerUrl) : String := "amqp://" ++ credentialsText u.credentials ++ u.located

end BrokerUrl

/-- A host that can stand between the marks of a URL. -/
structure PlainHost (host : String) : Prop where
  nonempty : host ≠ ""
  noColon : ':' ∉ host.toList
  noSlash : '/' ∉ host.toList
  noAt : '@' ∉ host.toList

/-! ### Slashes in a virtual host -/

/-- Every `%2f` and `%2F` read as a slash. -/
def slashed : List Char → List Char
  | '%' :: '2' :: 'f' :: rest => '/' :: slashed rest
  | '%' :: '2' :: 'F' :: rest => '/' :: slashed rest
  | c :: rest => c :: slashed rest
  | [] => []

/-- The virtual host that is written so in a URL. -/
def vhostOf (written : String) : String :=
  if written = "" then BrokerAddress.standard.vhost else String.ofList (slashed written.toList)

/-- The second replacement finds nothing that the first one has put together. -/
theorem replaceWord_escapes (cs : List Char) :
    replaceWord ['%', '2', 'F'] ['/'] (replaceWord ['%', '2', 'f'] ['/'] cs) = slashed cs := by
  induction cs using slashed.induct with
  | case1 rest ih =>
    have lower : replaceWord ['%', '2', 'f'] ['/'] ('%' :: '2' :: 'f' :: rest) =
        '/' :: replaceWord ['%', '2', 'f'] ['/'] rest :=
      replaceWord_append (List.cons_ne_nil '%' ['2', 'f']) rest
    rw [lower, replaceWord_cons (by simp), ih, slashed]
  | case2 rest ih =>
    have lower : replaceWord ['%', '2', 'f'] ['/'] ('%' :: '2' :: 'F' :: rest) =
        '%' :: '2' :: 'F' :: replaceWord ['%', '2', 'f'] ['/'] rest := by
      rw [replaceWord_cons (by simp), replaceWord_cons (by simp), replaceWord_cons (by simp)]
    rw [lower, slashed, ← ih]
    exact replaceWord_append (List.cons_ne_nil '%' ['2', 'F']) _
  | case3 c rest notLower notUpper ih =>
    have kept : ¬ ['%', '2', 'f'] <+: c :: rest := by
      rintro ⟨more, same⟩
      obtain ⟨rfl, rfl⟩ := List.cons.inj same
      exact notLower more rfl rfl
    have keptToo : ¬ ['%', '2', 'F'] <+: c :: replaceWord ['%', '2', 'f'] ['/'] rest := by
      -- What looks like an escape now has looked so before, for it holds no slash.
      rintro ⟨more, same⟩
      obtain ⟨rfl, second⟩ := List.cons.inj same
      obtain ⟨behind, rfl, third⟩ := eq_cons_of_replaceWord (by decide : '2' ≠ '/') second.symm
      obtain ⟨last, rfl, -⟩ := eq_cons_of_replaceWord (by decide : 'F' ≠ '/') third.symm
      exact notUpper last rfl rfl
    rw [replaceWord_cons kept, replaceWord_cons keptToo, ih, slashed]
    · exact notLower
    · exact notUpper
  | case4 => rfl

theorem decodeVhost_eq (written : String) :
    BrokerAddress.decodeVhost written.toList = vhostOf written := by
  rw [BrokerAddress.decodeVhost, vhostOf, replaceWord_escapes]
  by_cases empty : written = ""
  · simp [empty]
  · simp [empty]

/-! ### Spelling -/

/-- The ways to write a slash of a virtual host. -/
def slashMarks : List (List Char) := [['/'], ['%', '2', 'f'], ['%', '2', 'F']]

/-- A text and one way to write it: each of its slashes by one of the marks, all else as it is. -/
inductive Spells : List Char → List Char → Prop
  | nil : Spells [] []
  | plain {c : Char} {cs written : List Char} (other : c ≠ '/') (rest : Spells cs written) :
      Spells (c :: cs) (c :: written)
  | slash {mark cs written : List Char} (known : mark ∈ slashMarks) (rest : Spells cs written) :
      Spells ('/' :: cs) (mark ++ written)

/-- A character with which no mark begins was written for itself. -/
theorem Spells.head {c : Char} {cs written : List Char} (spelled : Spells cs (c :: written))
    (unmarked : c ≠ '/' ∧ c ≠ '%') : ∃ rest, cs = c :: rest ∧ Spells rest written := by
  generalize whole : c :: written = full at spelled
  cases spelled with
  | nil => cases whole
  | plain other rest =>
    obtain ⟨rfl, rfl⟩ := List.cons.inj whole
    exact ⟨_, rfl, rest⟩
  | slash known rest =>
    simp only [slashMarks, List.mem_cons, List.not_mem_nil, or_false] at known
    rcases known with rfl | rfl | rfl
    · exact (unmarked.1 (List.cons.inj whole).1).elim
    · exact (unmarked.2 (List.cons.inj whole).1).elim
    · exact (unmarked.2 (List.cons.inj whole).1).elim

theorem Spells.unmarked {cs written : List Char} (spelled : Spells cs written)
    (free : '@' ∉ cs) : '@' ∉ written := by
  induction spelled with
  | nil => exact free
  | plain other rest ih =>
    rw [List.mem_cons, not_or] at free ⊢
    exact ⟨free.1, ih free.2⟩
  | slash known rest ih =>
    have noAt : ∀ mark ∈ slashMarks, '@' ∉ mark := by decide
    rw [List.mem_append, not_or]
    exact ⟨noAt _ known, ih fun held => free (List.mem_cons_of_mem _ held)⟩

theorem Spells.ne_nil {cs written : List Char} (spelled : Spells cs written)
    (nonempty : cs ≠ []) : written ≠ [] := by
  cases spelled with
  | nil => exact nonempty
  | plain other rest => exact List.cons_ne_nil _ _
  | slash known rest =>
    have visible : ∀ mark ∈ slashMarks, mark ≠ [] := by decide
    exact List.append_ne_nil_of_left_ne_nil (visible _ known) _

/-- A text without escapes of its own is read back from every spelling of it. -/
theorem slashed_of_spells {cs written : List Char} (spelled : Spells cs written)
    (noLower : ¬ ['%', '2', 'f'] <:+: cs) (noUpper : ¬ ['%', '2', 'F'] <:+: cs) :
    slashed written = cs := by
  induction spelled with
  | nil => rfl
  | @plain c cs written other rest ih =>
    have below : cs <:+: c :: cs := (List.suffix_cons c cs).isInfix
    rw [slashed, ih (fun held => noLower (held.trans below)) fun held => noUpper (held.trans below)]
    -- An escape here would have been spelled from one in the text.
    · rintro more rfl rfl
      obtain ⟨behind, rfl, spelledThen⟩ := rest.head (by decide)
      obtain ⟨last, rfl, -⟩ := spelledThen.head (by decide)
      exact noLower (List.prefix_append ['%', '2', 'f'] last).isInfix
    · rintro more rfl rfl
      obtain ⟨behind, rfl, spelledThen⟩ := rest.head (by decide)
      obtain ⟨last, rfl, -⟩ := spelledThen.head (by decide)
      exact noUpper (List.prefix_append ['%', '2', 'F'] last).isInfix
  | @slash mark cs written known rest ih =>
    have below : cs <:+: '/' :: cs := (List.suffix_cons '/' cs).isInfix
    have readBack := ih (fun held => noLower (held.trans below)) fun held =>
      noUpper (held.trans below)
    simp only [slashMarks, List.mem_cons, List.not_mem_nil, or_false] at known
    rcases known with rfl | rfl | rfl
    · rw [List.cons_append, List.nil_append, slashed, readBack] <;> exact nofun
    · simp only [List.cons_append, List.nil_append, slashed, readBack]
    · simp only [List.cons_append, List.nil_append, slashed, readBack]

/-! ### Reading from the credentials to the virtual host -/

namespace BrokerAddress

/-- What stands behind the credentials: the host and port up to the first slash, then the virtual
host. -/
def locate (a : BrokerAddress) (located : List Char) : Except BrokerAddressFault BrokerAddress :=
  match cutFirst? '/' located with
  | some (host, vhost) => withHost { a with vhost := decodeVhost vhost } host
  | none => withHost a located

theorem ofRest_credentials {located : List Char} (credentials : List Char)
    (unmarked : '@' ∉ located) :
    ofRest (credentials ++ '@' :: located) =
      locate (standard.withCredentials credentials) located := by
  rw [ofRest, cutLast?_append credentials unmarked]
  rfl

theorem ofRest_uncredited {located : List Char} (unmarked : '@' ∉ located) :
    ofRest located = locate standard located := by
  rw [ofRest, cutLast?_eq_none unmarked]
  rfl

theorem ofUrl_scheme (written : String) : ofUrl ("amqp://" ++ written) = ofRest written.toList := by
  have begins : "amqp://".toList = scheme := rfl
  rw [ofUrl, String.toList_append, begins, afterWord?_append]

theorem withCredentials_written {username : String} (user : ':' ∉ username.toList)
    (password : Option String) (a : BrokerAddress) :
    a.withCredentials (username ++ BrokerUrl.behind ":" password).toList =
      { a with username := username, password := password.getD a.password } := by
  cases password with
  | none =>
    rw [BrokerUrl.behind_none, String.append_empty, withCredentials, cutFirst?_eq_none user]
    simp
  | some password =>
    have written : (username ++ BrokerUrl.behind ":" (some password)).toList =
        username.toList ++ ':' :: password.toList := by simp
    rw [written, withCredentials, cutFirst?_append user]
    simp

/-- Whatever slash credentials hold stands in the name or in the password read from them. -/
theorem slash_of_withCredentials {credentials : List Char} (held : '/' ∈ credentials)
    (a : BrokerAddress) : '/' ∈ (a.withCredentials credentials).username.toList ∨
      '/' ∈ (a.withCredentials credentials).password.toList := by
  rw [withCredentials]
  cases cut : cutFirst? ':' credentials with
  | none => simpa using .inl held
  | some halves =>
    rw [eq_append_of_cutFirst? cut] at held
    simpa using held

theorem withHost_written {host : String} (plain : PlainHost host) {port : Option Nat}
    (inRange : ∀ n ∈ port, n ≤ maxUInt16) (a : BrokerAddress) :
    a.withHost (host ++ BrokerUrl.behind ":" (port.map decimal)).toList =
      .ok { a with host := host, port := port.getD a.port } := by
  cases port with
  | none =>
    rw [Option.map_none, BrokerUrl.behind_none, String.append_empty, withHost,
      cutFirst?_eq_none plain.noColon]
    simp only [String.ofList_toList]
    exact if_neg plain.nonempty
  | some n =>
    have written : (host ++ BrokerUrl.behind ":" ((some n).map decimal)).toList =
        host.toList ++ ':' :: (decimal n).toList := by simp
    rw [written, withHost, cutFirst?_append plain.noColon]
    dsimp only
    rw [numeral?_decimal (inRange n rfl)]
    simp only [String.ofList_toList]
    exact if_neg plain.nonempty

theorem unmarked_port {mark : Char} (noDigit : mark.isDigit = false) (other : mark ≠ ':')
    (port : Option Nat) : mark ∉ (BrokerUrl.behind ":" (port.map decimal)).toList := by
  cases port with
  | none => simp
  | some n =>
    have notDigit : mark ∉ (decimal n).toList := by
      intro held
      rw [isDigit_of_mem_decimal held] at noDigit
      cases noDigit
    simp [other, notDigit]

theorem locate_located {u : BrokerUrl} (plain : PlainHost u.host)
    (inRange : ∀ n ∈ u.port, n ≤ maxUInt16) (a : BrokerAddress) :
    a.locate u.located.toList =
      .ok { a with
        host := u.host
        port := u.port.getD a.port
        vhost := (u.vhost.map vhostOf).getD a.vhost } := by
  have noSlash : '/' ∉ (u.host ++ BrokerUrl.behind ":" (u.port.map decimal)).toList := by
    rw [String.toList_append, List.mem_append, not_or]
    exact ⟨plain.noSlash, unmarked_port rfl (by decide) u.port⟩
  cases given : u.vhost with
  | none =>
    rw [BrokerUrl.located, given, BrokerUrl.behind_none, String.append_empty, locate,
      cutFirst?_eq_none noSlash]
    exact withHost_written plain inRange a
  | some vhost =>
    have written : u.located.toList =
        (u.host ++ BrokerUrl.behind ":" (u.port.map decimal)).toList ++ '/' :: vhost.toList := by
      simp [BrokerUrl.located, given]
    rw [written, locate, cutFirst?_append noSlash]
    dsimp only
    rw [decodeVhost_eq]
    exact withHost_written plain inRange _

/-- No `@` stands behind the credentials but one in the virtual host. -/
theorem at_mem_located {u : BrokerUrl} (plain : PlainHost u.host) :
    '@' ∈ u.located.toList ↔ ∃ vhost ∈ u.vhost, '@' ∈ vhost.toList := by
  have noAt : '@' ∉ (BrokerUrl.behind ":" (u.port.map decimal)).toList :=
    unmarked_port rfl (by decide) u.port
  rw [BrokerUrl.located, String.toList_append, String.toList_append]
  cases u.vhost with
  | none => simp [plain.noAt, noAt]
  | some vhost => simp [plain.noAt, noAt]

theorem withHost_credentials {a b : BrokerAddress} {written : List Char}
    (read : a.withHost written = .ok b) : b.username = a.username ∧ b.password = a.password := by
  -- The host may still turn out to be empty after a port has been read.
  have accepted {c : BrokerAddress} (read : (if c.host = "" then .error .noHost else .ok c) =
      Except.ok (ε := BrokerAddressFault) b) : b = c := by
    split at read
    · cases read
    · exact (Except.ok.inj read).symm
  rw [withHost] at read
  cases cut : cutFirst? ':' written with
  | none =>
    simp only [cut] at read
    rw [accepted read]
    exact ⟨rfl, rfl⟩
  | some halves =>
    simp only [cut] at read
    cases number : numeral? maxUInt16 halves.2 with
    | none =>
      simp only [number] at read
      cases read
    | some n =>
      simp only [number] at read
      rw [accepted read]
      exact ⟨rfl, rfl⟩

theorem locate_credentials {a b : BrokerAddress} {located : List Char}
    (read : a.locate located = .ok b) : b.username = a.username ∧ b.password = a.password := by
  rw [locate] at read
  cases cut : cutFirst? '/' located with
  | none =>
    simp only [cut] at read
    exact withHost_credentials read
  | some halves =>
    simp only [cut] at read
    exact withHost_credentials (a := { a with vhost := decodeVhost halves.2 }) read

/-! ### Whole URLs -/

/-- The virtual host that a part of a URL means: none if it is absent or empty, and any text that
is free of `@` and of escapes if it spells it. -/
inductive VhostMeant : (written vhost : Option String) → Prop
  | absent : VhostMeant none none
  | empty : VhostMeant (some "") none
  | spelled {written vhost : String} (nonempty : vhost ≠ "") (noAt : '@' ∉ vhost.toList)
      (noLower : ¬ ['%', '2', 'f'] <:+: vhost.toList)
      (noUpper : ¬ ['%', '2', 'F'] <:+: vhost.toList)
      (spelled : Spells vhost.toList written.toList) : VhostMeant (some written) (some vhost)

theorem VhostMeant.unmarked {written vhost : Option String} (meant : VhostMeant written vhost) :
    ∀ text ∈ written, '@' ∉ text.toList := by
  cases meant with
  | absent => exact nofun
  | empty =>
    rintro _ ⟨⟩
    decide
  | spelled nonempty noAt noLower noUpper spelled =>
    rintro _ ⟨⟩
    exact spelled.unmarked noAt

theorem VhostMeant.read {written vhost : Option String} (meant : VhostMeant written vhost) :
    (written.map vhostOf).getD standard.vhost = vhost.getD standard.vhost := by
  cases meant with
  | absent => rfl
  | empty => rfl
  | @spelled written vhost nonempty noAt noLower noUpper spelled =>
    have visible : written ≠ "" := by
      rintro rfl
      refine spelled.ne_nil ?_ rfl
      simpa using nonempty
    rw [Option.map_some, Option.getD_some, Option.getD_some, vhostOf, if_neg visible,
      slashed_of_spells spelled noLower noUpper, String.ofList_toList]

/-- A URL with a user name is read as the parts it was written from. The password, the port and the
virtual host may be left out and then have their defaults. -/
theorem written_parts_are_read {username host : String} {password : Option String}
    {port : Option Nat} {written vhost : Option String} (user : ':' ∉ username.toList)
    (plain : PlainHost host) (inRange : ∀ n ∈ port, n ≤ maxUInt16)
    (meant : VhostMeant written vhost) :
    ofUrl (BrokerUrl.text ⟨some (username, password), host, port, written⟩) =
      .ok { standard with
        host := host
        port := port.getD standard.port
        username := username
        password := password.getD standard.password
        vhost := vhost.getD standard.vhost } := by
  let url : BrokerUrl := ⟨some (username, password), host, port, written⟩
  have unmarked : '@' ∉ url.located.toList := by
    rw [at_mem_located plain]
    rintro ⟨text, given, held⟩
    exact meant.unmarked text given held
  have parted : (BrokerUrl.credentialsText url.credentials ++ url.located).toList =
      (username ++ BrokerUrl.behind ":" password).toList ++ '@' :: url.located.toList := by
    simp [url, BrokerUrl.credentialsText]
  calc ofUrl url.text
      = ofRest (BrokerUrl.credentialsText url.credentials ++ url.located).toList := by
        rw [BrokerUrl.text, String.append_assoc, ofUrl_scheme]
    _ = locate (standard.withCredentials (username ++ BrokerUrl.behind ":" password).toList)
          url.located.toList := by rw [parted, ofRest_credentials _ unmarked]
    _ = _ := by
        rw [withCredentials_written user, locate_located plain inRange, ← meant.read]

/-- Marks of other parts in all parts that may hold them. -/
def markedUrl : BrokerUrl :=
  ⟨some ("co@rd", some "s:e/c@t"), "rabbit", some 5673, some "%2fgames/%%2F2f"⟩

theorem rabbit_plain : PlainHost "rabbit" := ⟨by simp, by simp, by simp, by simp⟩

theorem marked_parts_are_read :
    ofUrl markedUrl.text = .ok ⟨"rabbit", 5673, "co@rd", "s:e/c@t", "/games/%/2f", 5, 1000⟩ := by
  have lower : ['%', '2', 'f'] ∈ slashMarks := by simp [slashMarks]
  have raw : ['/'] ∈ slashMarks := by simp [slashMarks]
  have upper : ['%', '2', 'F'] ∈ slashMarks := by simp [slashMarks]
  have spelled : Spells "/games/%/2f".toList "%2fgames/%%2F2f".toList := by
    simp only [String.reduceToList]
    refine .slash lower ?_
    iterate 5 refine .plain (by simp) ?_
    refine .slash raw (.plain (by simp) (.slash upper ?_))
    iterate 2 refine .plain (by simp) ?_
    exact .nil
  exact written_parts_are_read (by simp) rabbit_plain (by decide)
    (.spelled (by simp) (by simp) (by decide +kernel) (by decide +kernel) spelled)

/-- Without credentials, everything is read as written if no `@` stands in the virtual host. With
one, what is read has other credentials than the default ones, if anything is read at all. -/
theorem uncredited_iff_unmarked {host : String} (plain : PlainHost host) {port : Option Nat}
    (inRange : ∀ n ∈ port, n ≤ maxUInt16) (vhost : String) :
    let url := BrokerUrl.text ⟨none, host, port, some vhost⟩
    (ofUrl url = .ok { standard with
      host := host
      port := port.getD standard.port
      vhost := vhostOf vhost } ↔ '@' ∉ vhost.toList) ∧
    ('@' ∈ vhost.toList → ∀ a, ofUrl url = .ok a →
      (a.username, a.password) ≠ (standard.username, standard.password)) := by
  intro url
  let parts : BrokerUrl := ⟨none, host, port, some vhost⟩
  have rest : ofUrl url = ofRest parts.located.toList := by
    show ofUrl ("amqp://" ++ "" ++ parts.located) = _
    rw [String.append_assoc, ofUrl_scheme, String.empty_append]
  have others : '@' ∈ vhost.toList → ∀ a, ofUrl url = .ok a →
      (a.username, a.password) ≠ (standard.username, standard.password) := by
    intro marked a read same
    obtain ⟨front, back, whole, free⟩ := exists_last marked
    have parted : parts.located.toList =
        ((host ++ BrokerUrl.behind ":" (port.map decimal)).toList ++ '/' :: front) ++
          '@' :: back := by
      simp [parts, BrokerUrl.located, whole]
    rw [rest, parted, ofRest_credentials _ free] at read
    obtain ⟨username, password⟩ := locate_credentials read
    rw [username, password, Prod.mk.injEq] at same
    have slash : '/' ∈
        (host ++ BrokerUrl.behind ":" (port.map decimal)).toList ++ '/' :: front := by
      simp
    have held := slash_of_withCredentials slash standard
    rw [same.1, same.2] at held
    revert held
    decide
  refine ⟨⟨fun read marked => others marked _ read rfl, fun unmarked => ?_⟩, others⟩
  have free : '@' ∉ parts.located.toList := by
    rw [at_mem_located plain]
    rintro ⟨_, ⟨⟩, held⟩
    exact unmarked held
  rw [rest, ofRest_uncredited free, locate_located plain inRange]
  rfl

theorem rabbit_is_read_uncredited :
    ofUrl (BrokerUrl.text ⟨none, "rabbit", none, some "%2fgames"⟩) =
      .ok { standard with host := "rabbit", vhost := vhostOf "%2fgames" } ∧
    vhostOf "%2fgames" = "/games" :=
  ⟨(uncredited_iff_unmarked rabbit_plain (by simp) "%2fgames").1.mpr (by simp), by decide +kernel⟩

/-- The text before the `@` of a virtual host becomes a user name, the text behind it the host. -/
theorem vhost_is_taken_for_credentials :
    PlainHost "h" ∧ BrokerUrl.text ⟨none, "h", none, some "a@b"⟩ = "amqp://h/a@b" ∧
      ofUrl "amqp://h/a@b" = .ok { standard with host := "b", username := "h/a" } ∧
      ofUrl "amqp://h/a@b" ≠ .ok { standard with host := "h", vhost := vhostOf "a@b" } := by
  have read : ofUrl "amqp://h/a@b" = .ok { standard with host := "b", username := "h/a" } := by rfl
  refine ⟨⟨by simp, by simp, by simp, by simp⟩, by decide +kernel, read, ?_⟩
  rw [read]
  intro same
  have host := congrArg BrokerAddress.host (Except.ok.inj same)
  revert host
  decide

end BrokerAddress

end LobbyPlacement
