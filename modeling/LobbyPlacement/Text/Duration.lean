import LobbyPlacement.Text.Numeral

/-!
# Durations in words

A number of milliseconds in the largest unit that fits: seconds with as many decimals as are
needed, or milliseconds.
-/

namespace LobbyPlacement.Text

def dropLastZeros (cs : List Char) : List Char := (cs.reverse.dropWhile (· == '0')).reverse

/-- Thousandths as decimals behind a point, without zeros at the end. -/
def thousandths (n : Nat) : String :=
  let digits := (Nat.toDigits 10 (1000 + n % 1000)).drop 1
  match dropLastZeros digits with
  | [] => ""
  | decimals => String.ofList ('.' :: decimals)

def durationText (milliseconds : Nat) : String :=
  if milliseconds = 0 then "0ns"
  else if milliseconds < 1000 then decimal milliseconds ++ "ms"
  else decimal (milliseconds / 1000) ++ thousandths milliseconds ++ "s"

end LobbyPlacement.Text
