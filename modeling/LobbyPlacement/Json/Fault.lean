import LobbyPlacement.Text.Numeral
import LobbyPlacement.Text.Utf8

/-!
# Faults in JSON text

What is wrong with a JSON text and where. While a text is read, a place is the number of bytes
behind it; `JsonFault.message` turns it into a line and a column, both told by the bytes before the
place.
-/

namespace LobbyPlacement

/-- What is wrong. The last kind is told in the words of the reader that expected something. -/
inductive JsonCause
  | endInList
  | endInRecord
  | endInText
  | endInValue
  | colonExpected
  | listGoesOn
  | recordGoesOn
  | wordExpected
  | valueExpected
  | escape
  | number
  | range
  | codePoint
  | control
  | keyExpected
  | loneSurrogate
  | trailingComma
  | trailingCharacters
  | escapeEnds
  | unexpected (words : String)
deriving DecidableEq, Repr

def JsonCause.message : JsonCause → String
  | endInList => "EOF while parsing a list"
  | endInRecord => "EOF while parsing an object"
  | endInText => "EOF while parsing a string"
  | endInValue => "EOF while parsing a value"
  | colonExpected => "expected `:`"
  | listGoesOn => "expected `,` or `]`"
  | recordGoesOn => "expected `,` or `\x7d`"
  | wordExpected => "expected ident"
  | valueExpected => "expected value"
  | escape => "invalid escape"
  | number => "invalid number"
  | range => "number out of range"
  | codePoint => "invalid unicode code point"
  | control => "control character (\\u0000-\\u001F) found while parsing a string"
  | keyExpected => "key must be a string"
  | loneSurrogate => "lone leading surrogate in hex escape"
  | trailingComma => "trailing comma"
  | trailingCharacters => "trailing characters"
  | escapeEnds => "unexpected end of hex escape"
  | unexpected words => words

structure JsonFault where
  cause : JsonCause
  behind : Nat
deriving DecidableEq, Repr

namespace JsonFault

open Text.Utf8 (Bytes)

/-- A fault in front of the rest of the input. -/
def before (cause : JsonCause) (rest : Bytes) : JsonFault := ⟨cause, rest.length⟩

/-- A fault in the next byte, which counts as read. -/
def within (cause : JsonCause) (rest : Bytes) : JsonFault := ⟨cause, rest.length - 1⟩

def lineFeed : UInt8 := 10

/-- The line and the column after some bytes. -/
def lineColumn (bytes : Bytes) : Nat × Nat :=
  (bytes.count lineFeed + 1, (bytes.reverse.takeWhile (· != lineFeed)).length)

def message (input : Bytes) (f : JsonFault) : String :=
  let (line, column) := lineColumn (input.take (input.length - f.behind))
  f.cause.message ++ " at line " ++ Text.decimal line ++ " column " ++ Text.decimal column

end JsonFault

end LobbyPlacement
