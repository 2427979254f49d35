import LobbyPlacement.Json.Lexer
import LobbyPlacement.Number.Shortest

/-!
# JSON numbers

Numbers read for their value. Whole numbers stay exact while they fit a word of 64 bits. All others
become doubles: as many digits as fit a word are read, the rest only count, and the power of ten is
applied last. A negative zero is a double.
-/

namespace LobbyPlacement

open Number Text.Utf8

inductive JsonNumber
  | unsigned (n : Nat)
  | negative (n : Nat)
  | real (isNegative : Bool) (x : Binary64)

/-- Doubles in messages: positional from `1e-5` up to below `1e16`. -/
def JsonNumber.text : JsonNumber → String
  | unsigned n => "integer `" ++ Text.decimal n ++ "`"
  | negative n => "integer `-" ++ Text.decimal n ++ "`"
  | real isNegative x =>
    "floating point `" ++ (if isNegative then "-" else "") ++ Layout.scientific.text x ++ "`"

namespace JsonNumber

open JsonText

abbrev Reading := Except JsonFault (JsonNumber × Bytes)

/-- Digits that still fit a word, and how many they were. -/
def gather (value taken : Nat) : Bytes → Nat × Nat × Bytes
  | [] => (value, taken, [])
  | b :: rest =>
    if isDigit b && value * 10 + (b.toNat - 48) ≤ Text.maxUInt64 then
      gather (value * 10 + (b.toNat - 48)) (taken + 1) rest
    else (value, taken, b :: rest)

def startsWithDigit : Bytes → Bool
  | b :: _ => isDigit b
  | [] => false

def power (e : Nat) : Binary64 := (Binary64.ofScientific 1 e).getD .zero

/-- A word times a power of ten. Far below the least power a double has, it is applied in two
steps. -/
def scale (isNegative : Bool) (significand : Nat) (e : Int) (rest : Bytes) : Reading :=
  let x := (Binary64.ofNat? significand).getD .zero
  let divided (x : Binary64) (e : Nat) := (x.div (power e)).getD .zero
  if x.isZero then .ok (.real isNegative .zero, rest)
  else if 308 < e then .error (.before .range rest)
  else if 0 ≤ e then
    match x.mul (power e.toNat) with
    | some y => .ok (.real isNegative y, rest)
    | none => .error (.before .range rest)
  else if -308 ≤ e then .ok (.real isNegative (divided x (-e).toNat), rest)
  else if -616 ≤ e then
    .ok (.real isNegative (divided (divided x 308) (-e - 308).toNat), rest)
  else .ok (.real isNegative .zero, rest)

/-- The largest exponent that is read as one. -/
def exponentBound : Nat := Nat.pow 2 31 - 1

def gatherExponent (value : Nat) : Bytes → Except Bytes (Nat × Bytes)
  | [] => .ok (value, [])
  | b :: rest =>
    if !isDigit b then .ok (value, b :: rest)
    else if exponentBound < value * 10 + (b.toNat - 48) then .error rest
    else gatherExponent (value * 10 + (b.toNat - 48)) rest

/-- The exponent behind its letter. -/
def exponent (isNegative : Bool) (significand : Nat) (start : Int) (input : Bytes) : Reading :=
  let (down, digits) := match input with
    | b :: rest => if b = 45 then (true, rest) else if b = 43 then (false, rest) else (false, input)
    | [] => (false, [])
  match digits with
  | [] => .error (.before .endInValue [])
  | b :: rest =>
    if !isDigit b then .error (.before .number rest)
    else match gatherExponent 0 digits with
      | .ok (e, after) =>
        let sum := if down then start - e else start + e
        scale isNegative significand (max (-exponentBound - 1) (min exponentBound sum)) after
      | .error after =>
        if significand ≠ 0 && !down then .error (.before .range after)
        else .ok (.real isNegative .zero, (skipDigits after).1)

def afterDigits (isNegative : Bool) (significand : Nat) (e : Int) (input : Bytes) : Reading :=
  match input with
  | b :: rest =>
    if b = 101 || b = 69 then exponent isNegative significand e rest
    else scale isNegative significand e input
  | [] => scale isNegative significand e []

def fraction (isNegative : Bool) (significand : Nat) (e : Int) (input : Bytes) : Reading :=
  let (significand, taken, rest) := gather significand 0 input
  if startsWithDigit rest then
    afterDigits isNegative significand (e - taken) (skipDigits rest).1
  else if taken = 0 then
    .error (.within (if rest.isEmpty then .endInValue else .number) rest)
  else afterDigits isNegative significand (e - taken) rest

def signed (isNegative : Bool) (n : Nat) : JsonNumber :=
  if !isNegative then unsigned n
  else if n = 0 || Nat.pow 2 63 < n then real true ((Binary64.ofNat? n).getD .zero)
  else negative n

def read (isNegative : Bool) (input : Bytes) : Reading :=
  match input with
  | [] => .error (.before .endInValue [])
  | b :: rest =>
    if !isDigit b then .error (.before .number rest)
    else if b = 48 && startsWithDigit rest then .error (.within .number rest)
    else
      let (significand, _, after) := gather 0 0 input
      if startsWithDigit after then
        let tail := (skipDigits after).1
        let e : Int := after.length - tail.length
        match tail with
        | p :: more =>
          if p = 46 then fraction isNegative significand e more
          else afterDigits isNegative significand e tail
        | [] => afterDigits isNegative significand e []
      else match after with
        | p :: more =>
          if p = 46 then fraction isNegative significand 0 more
          else if p = 101 || p = 69 then exponent isNegative significand 0 more
          else .ok (signed isNegative significand, after)
        | [] => .ok (signed isNegative significand, [])

end JsonNumber

end LobbyPlacement
