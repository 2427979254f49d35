import LobbyPlacement.Settings.Document
import LobbyPlacement.Toml.Text

/-!
# TOML numbers and dates

Dates and times, whole numbers to four bases, floating-point numbers and truth values. They are
tried in this order, so a date is not read as a number. Whole numbers fit a signed word of 64 bits;
digits may be set apart by single underscores.
-/

namespace LobbyPlacement.Toml

open LobbyPlacement.Text (Rest Shorter)

/-! ### Dates and times -/

/-- The value of exactly so many digits, within bounds. -/
def fixed? (digits low high : Nat) (input : List Char) : Option (Nat × Rest input) :=
  let ds := input.take digits
  let value := ds.foldl (fun v c => v * 10 + (c.toNat - 48)) 0
  if ds.length = digits && ds.all isDigit && low ≤ value && value ≤ high then
    some (value, Text.drop digits input)
  else none

def separator? (c : Char) (input : List Char) : Option (Rest input) :=
  (mark? c input).map Shorter.loose

def daysIn (year month : Nat) : Nat :=
  if month = 2 then
    if year % 4 = 0 && (year % 100 ≠ 0 || year % 400 = 0) then 29 else 28
  else if month = 4 || month = 6 || month = 9 || month = 11 then 30
  else 31

def day? (input : List Char) : Option (Rest input) := do
  let (year, a) ← fixed? 4 0 9999 input
  let b ← separator? '-' a.1
  let (month, c) ← fixed? 2 1 12 b.1
  let d ← separator? '-' c.1
  let (_, e) ← fixed? 2 1 (daysIn year month) d.1
  return a.of (b.of (c.of (d.of e)))

def secondsFraction (input : List Char) : Rest input :=
  match separator? '.' input with
  | none => .all input
  | some point =>
    match LobbyPlacement.Text.run? isDigit point.1 with
    | some (_, r) => point.of ⟨r.1, Nat.le_of_lt r.2⟩
    | none => .all input

def time? (input : List Char) : Option (Rest input) := do
  let (_, a) ← fixed? 2 0 23 input
  let b ← separator? ':' a.1
  let (_, c) ← fixed? 2 0 59 b.1
  let d ← separator? ':' c.1
  let (_, e) ← fixed? 2 0 60 d.1
  return a.of (b.of (c.of (d.of (e.of (secondsFraction e.1)))))

def offset (input : List Char) : Rest input :=
  let signed (sign : Char) : Option (Rest input) := do
    let a ← separator? sign input
    let (_, b) ← fixed? 2 0 23 a.1
    let c ← separator? ':' b.1
    let (_, d) ← fixed? 2 0 59 c.1
    return a.of (b.of (c.of d))
  ((separator? 'Z' input <|> separator? 'z' input) <|> (signed '+' <|> signed '-')).getD
    (.all input)

/-- A time of day behind a date, with or without an offset. -/
def timeBehindDay (input : List Char) : Rest input :=
  let delimited (c : Char) : Option (Rest input) := do
    let a ← separator? c input
    let b ← time? a.1
    return a.of (b.of (offset b.1))
  (delimited 'T' <|> (delimited 't' <|> delimited ' ')).getD (.all input)

def date? (input : List Char) : Option (Rest input) :=
  match day? input with
  | some day => some (day.of (timeBehindDay day.1))
  | none => time? input

/-! ### Numbers -/

/-- Digits set apart by single underscores; a trailing underscore is left. -/
def digitRun (p : Char → Bool) : List Char → List Char
  | c :: rest =>
    if p c then c :: digitRun p rest
    else match c, rest with
      | '_', d :: more => if p d then '_' :: d :: digitRun p more else []
      | _, _ => []
  | [] => []

def withoutUnderscores (cs : List Char) : List Char := cs.filter (· ≠ '_')

def valueOf (base : Nat) (digits : List Char) : Nat :=
  (withoutUnderscores digits).foldl (fun v c => v * base + hexValue c) 0

/-- Digits of a kind, the first of which is no underscore. -/
def digits (p : Char → Bool) (input : List Char) : List Char :=
  match input with
  | c :: _ => if p c then digitRun p input else []
  | [] => []

/-- The sign at the front, if there is one, and its length. -/
def sign (input : List Char) : Bool × Nat :=
  match input with
  | '-' :: _ => (true, 1)
  | '+' :: _ => (false, 1)
  | _ => (false, 0)

/-- The digits of a decimal number: no zero in front of another digit. -/
def decimalDigits (input : List Char) : List Char :=
  match input with
  | '0' :: _ => ['0']
  | _ => digits isDigit input

structure Numeral where
  value : Document
  length : Nat

def power2_63 : Nat := Nat.pow 2 63

def based? (base : Nat) (p : Char → Bool) (input : List Char) : Option Numeral :=
  let ds := digits p (input.drop 2)
  let value := valueOf base ds
  if ds.isEmpty || power2_63 ≤ value then none else some ⟨.integer value, 2 + ds.length⟩

def integer? (input : List Char) : Option Numeral :=
  match input with
  | '0' :: 'x' :: _ => based? 16 isHexDigit input
  | '0' :: 'o' :: _ => based? 8 (fun c => '0' ≤ c && c ≤ '7') input
  | '0' :: 'b' :: _ => based? 2 (fun c => c = '0' || c = '1') input
  | _ =>
    let (isNegative, width) := sign input
    let ds := decimalDigits (input.drop width)
    let value := valueOf 10 ds
    if ds.isEmpty then none
    else if isNegative then
      if value ≤ power2_63 then some ⟨.integer (-value), width + ds.length⟩ else none
    else if value < power2_63 then some ⟨.integer value, width + ds.length⟩
    else none

/-- The sign and the digits of an exponent behind its letter, and their length. -/
def exponent? (input : List Char) : Option (Int × Nat) :=
  match input with
  | c :: rest =>
    if c = 'e' || c = 'E' then
      let (isNegative, width) := sign rest
      let ds := digits isDigit (rest.drop width)
      if ds.isEmpty then none
      else some (if isNegative then -(valueOf 10 ds : Int) else valueOf 10 ds,
        1 + width + ds.length)
    else none
  | [] => none

/-- Past this distance from the point a number is zero or infinite, whatever its digits. -/
def farExponent : Nat := 400

/-- The double nearest to a decimal number; the largest are infinite. -/
def nearest (isNegative : Bool) (significand : Nat) (e : Int) : Number.Floating :=
  let digits := (Nat.toDigits 10 significand).length
  if significand = 0 || e + digits < -(farExponent : Int) then .finite isNegative .zero
  else if (farExponent : Int) < e + digits then .infinite isNegative
  else match Number.Binary64.ofScientific significand e with
    | some x => .finite isNegative x
    | none => .infinite isNegative

/-- A number with a point, an exponent or both. Too large a positive one is refused. -/
def floating? (input : List Char) : Option Numeral :=
  let (isNegative, width) := sign input
  let whole := decimalDigits (input.drop width)
  let behind := input.drop (width + whole.length)
  let fraction := match behind with
    | '.' :: rest => digits isDigit rest
    | _ => []
  let point := if fraction.isEmpty then 0 else 1 + fraction.length
  let power := exponent? (behind.drop point)
  if whole.isEmpty || (fraction.isEmpty && power.isNone) then none
  else
    let (e, length) := power.getD (0, 0)
    let significand := valueOf 10 (whole ++ fraction)
    let places := (withoutUnderscores fraction).length
    let x := nearest isNegative significand (e - places)
    match x with
    | .infinite false => none
    | _ => some ⟨.floating x, width + whole.length + point + length⟩

/-- The named values, which may have a sign. -/
def special? (input : List Char) : Option Numeral :=
  let (isNegative, width) := sign input
  match input.drop width with
  | 'i' :: 'n' :: 'f' :: _ => some ⟨.floating (.infinite isNegative), width + 3⟩
  | 'n' :: 'a' :: 'n' :: _ => some ⟨.floating .nan, width + 3⟩
  | _ => none

def truth? (input : List Char) : Option Numeral :=
  match input with
  | 't' :: 'r' :: 'u' :: 'e' :: _ => some ⟨.flag true, 4⟩
  | 'f' :: 'a' :: 'l' :: 's' :: 'e' :: _ => some ⟨.flag false, 5⟩
  | _ => none

/-- Any value that is neither a text nor made of others. -/
def scalar (input : List Char) : Lexed Document input :=
  match date? input with
  | some ⟨rest, _⟩ =>
    if shorter : rest.length < input.length then some (.date, ⟨rest, shorter⟩) else none
  | none =>
    match floating? input <|> (special? input <|> (integer? input <|> truth? input)) with
    | none => none
    | some n =>
      if nonempty : 0 < n.length ∧ 0 < input.length then
        some (n.value, ⟨input.drop n.length, by rw [List.length_drop]; omega⟩)
      else none

end LobbyPlacement.Toml
