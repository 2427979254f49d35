import LobbyPlacement.Json.Lexer
import LobbyPlacement.Text.Split

/-!
# Request targets

The path and the query of a request, and the named values in a query. A fragment and the part up
to the path of an absolute address do not matter. In a query `+` stands for a blank and `%` with
two hexadecimal digits for a byte; a `%` without them stands for itself, and bytes that are no
UTF-8 become U+FFFD.
-/

namespace LobbyPlacement.Http

open Text Text.Utf8

structure Target where
  path : String
  query : String

namespace Target

/-- The rest of an absolute address behind its host, or nothing if there is no host. -/
def behindHost (cs : List Char) : List Char :=
  match cs.dropWhile (· != ':') with
  | ':' :: '/' :: '/' :: rest =>
    match rest.dropWhile fun c => c != '/' && c != '?' with
    | '/' :: path => '/' :: path
    | query => '/' :: query
  | _ => []

def ofText (s : String) : Target :=
  let cs := s.toList.takeWhile (· != '#')
  let written := match cs with
    | '/' :: _ => cs
    | _ => behindHost cs
  match cutFirst? '?' written with
  | some (path, query) => ⟨String.ofList path, String.ofList query⟩
  | none => ⟨String.ofList written, ""⟩

end Target

/-- The bytes that a piece of a query stands for. -/
def unescape : Bytes → Bytes
  | [] => []
  | b :: rest =>
    if b = 43 then 32 :: unescape rest
    else if b = 37 then
      match rest with
      | high :: low :: more =>
        match JsonText.hexValue? high, JsonText.hexValue? low with
        | some h, some l => UInt8.ofNat (h * 16 + l) :: unescape more
        | _, _ => 37 :: unescape (high :: low :: more)
      | short => 37 :: unescape short
    else b :: unescape rest

def unescapeText (cs : List Char) : String :=
  decodeLossy (unescape (encode (String.ofList cs)))

/-- The names and values of a query; a name without `=` has the empty value. -/
def queryFields (query : String) : List (String × String) :=
  ((pieces '&' query.toList).filter fun piece => !piece.isEmpty).map fun piece =>
    match cutFirst? '=' piece with
    | some (name, value) => (unescapeText name, unescapeText value)
    | none => (unescapeText piece, "")

end LobbyPlacement.Http
