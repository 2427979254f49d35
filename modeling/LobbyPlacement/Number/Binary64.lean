/-!
# Binary floating point

Nonnegative double-precision numbers as exact dyadic fractions. Every operation is the exact
rational result rounded to 53 bits, a half going to the even neighbour.
-/

namespace LobbyPlacement.Number

/-- The quotient rounded to the nearest natural number, a half going to the even one. -/
def roundQuotient (num den : Nat) : Nat :=
  let q := num / den
  let twice := 2 * (num % den)
  if den < twice || (twice = den && q % 2 = 1) then q + 1 else q

/-- `2 ^ e` above and below the fraction bar. -/
def powerUp (e : Int) : Nat := Nat.pow 2 e.toNat
def powerDown (e : Int) : Nat := Nat.pow 2 (-e).toNat

/-- The number `mant * 2 ^ exp`. -/
structure Binary64 where
  mant : Nat
  exp : Int
deriving DecidableEq, Repr

namespace Binary64

def num (x : Binary64) : Nat := x.mant * powerUp x.exp
def den (x : Binary64) : Nat := powerDown x.exp

/-- The exponent for which the rounded significand has 53 bits, or the least one. -/
def exponentFor (num den : Nat) : Int :=
  let guess := (Nat.log2 num : Int) - (Nat.log2 den : Int) - 52
  let e := if num * powerDown guess < den * powerUp guess * Nat.pow 2 52 then guess - 1 else guess
  max e (-1074)

/-- The double nearest to a fraction; `none` past the largest finite one. -/
def ofQuotient (num den : Nat) : Option Binary64 :=
  if num = 0 then some ⟨0, -1074⟩
  else
    let e := exponentFor num den
    let m := roundQuotient (num * powerDown e) (den * powerUp e)
    let x : Binary64 := if m = Nat.pow 2 53 then ⟨Nat.pow 2 52, e + 1⟩ else ⟨m, e⟩
    if 971 < x.exp then none else some x

def zero : Binary64 := ⟨0, -1074⟩

def isZero (x : Binary64) : Bool := x.mant = 0

def ofNat? (n : Nat) : Option Binary64 := ofQuotient n 1

def add (x y : Binary64) : Option Binary64 :=
  ofQuotient (x.num * y.den + y.num * x.den) (x.den * y.den)

def mul (x y : Binary64) : Option Binary64 := ofQuotient (x.num * y.num) (x.den * y.den)

/-- The quotient by a nonzero number. -/
def div (x y : Binary64) : Option Binary64 := ofQuotient (x.num * y.den) (x.den * y.num)

/-- The double nearest to `n * 10 ^ e`. -/
def ofScientific (n : Nat) (e : Int) : Option Binary64 :=
  ofQuotient (n * Nat.pow 10 e.toNat) (Nat.pow 10 (-e).toNat)

def le (x y : Binary64) : Bool := x.num * y.den ≤ y.num * x.den

end Binary64

end LobbyPlacement.Number
