/-!
# Decimal numerals

Reading a natural number written in ASCII digits, with an optional plus sign, up to a largest
value.
-/

namespace LobbyPlacement.Text

def digitValue? (c : Char) : Option Nat :=
  if '0' ≤ c && c ≤ '9' then some (c.toNat - '0'.toNat) else none

def digitsValue? : (value : Nat) → List Char → Option Nat
  | value, [] => some value
  | value, c :: rest => (digitValue? c).bind fun d => digitsValue? (value * 10 + d) rest

/-- A numeral of at least one digit whose value is at most `largest`. -/
def numeral? (largest : Nat) (cs : List Char) : Option Nat :=
  let digits := match cs with
    | '+' :: rest => rest
    | _ => cs
  match digits with
  | [] => none
  | _ => (digitsValue? 0 digits).filter (· ≤ largest)

def decimal (n : Nat) : String := String.ofList (Nat.toDigits 10 n)

/-- The largest values of the fixed widths in use. -/
def maxUInt16 : Nat := Nat.pow 2 16 - 1
def maxUInt32 : Nat := Nat.pow 2 32 - 1
def maxUInt64 : Nat := Nat.pow 2 64 - 1

end LobbyPlacement.Text
