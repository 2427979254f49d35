import LobbyPlacement.Number.Binary64

/-!
# Shortest decimals

A double is written with the fewest decimal digits that read back as the same double. The reals
that round to it form an interval, which contains its ends exactly when the significand is even;
of two decimals of one length in the interval the nearer is taken.
-/

namespace LobbyPlacement.Number

/-- The decimal `digits * 10 ^ exp`. -/
structure Decimal where
  digits : Nat
  exp : Int
deriving DecidableEq, Repr

namespace Binary64

/-- Four times the significand, and the ends of the rounding interval in the same unit. -/
def interval (x : Binary64) : Nat × Nat × Nat :=
  let v := 4 * x.mant
  (v, (if x.mant = Nat.pow 2 52 && -1074 < x.exp then v - 1 else v - 2), v + 2)

def magnitude (num den : Nat) : Int :=
  if den ≤ num then ((Nat.toDigits 10 (num / den)).length : Int) - 1
  else match (List.range 330).find? fun j => den ≤ num * Nat.pow 10 j with
    | some j => -(j : Int)
    | none => -330

/-- The nearest multiple of `10 ^ p` inside the interval. -/
def onGrid (x : Binary64) (p : Int) : Option Decimal :=
  let (v, low, high) := x.interval
  -- one unit of the interval is `unit / scale` steps of the grid
  let unit := powerUp (x.exp - 2) * Nat.pow 10 (-p).toNat
  let scale := powerDown (x.exp - 2) * Nat.pow 10 p.toNat
  let floor := v * unit / scale
  let inside (k : Nat) : Bool :=
    if x.mant % 2 = 0 then low * unit ≤ k * scale && k * scale ≤ high * unit
    else low * unit < k * scale && k * scale < high * unit
  let below := v * unit - floor * scale
  let above := (floor + 1) * scale - v * unit
  match inside floor, inside (floor + 1) with
  | true, true =>
    some ⟨if below < above || (below = above && floor % 2 = 0) then floor else floor + 1, p⟩
  | true, false => some ⟨floor, p⟩
  | false, true => some ⟨floor + 1, p⟩
  | false, false => none

/-- The shortest decimal of a double; seventeen digits always suffice. Rounding up may carry into a
new digit, which leaves one zero to drop. -/
def shortest (x : Binary64) : Decimal :=
  if x.isZero then ⟨0, 0⟩
  else
    let top := magnitude x.num x.den
    match (List.range 17).findSome? fun (n : Nat) => x.onGrid (top - n) with
    | some d => if d.digits % 10 = 0 then ⟨d.digits / 10, d.exp + 1⟩ else d
    | none => ⟨x.mant, x.exp⟩

end Binary64

/-- How decimals are laid out: the powers of ten of the leading digit for which they are written
positionally, the tail that marks an integer as a fraction, and the sign before a nonnegative
exponent. -/
structure Layout where
  positional : Int → Bool
  integerTail : String
  exponentPlus : String

/-- Digits with the point at the given power of ten, padded with zeros on either side. -/
def positionalText (layout : Layout) (d : Decimal) : String :=
  let ds := Nat.toDigits 10 d.digits
  if 0 ≤ d.exp then String.ofList (ds ++ List.replicate d.exp.toNat '0') ++ layout.integerTail
  else
    let places := (-d.exp).toNat
    if places < ds.length then
      String.ofList (ds.take (ds.length - places) ++ '.' :: ds.drop (ds.length - places))
    else String.ofList ('0' :: '.' :: List.replicate (places - ds.length) '0' ++ ds)

def exponentText (layout : Layout) (d : Decimal) : String :=
  let ds := Nat.toDigits 10 d.digits
  let e : Int := d.exp + ds.length - 1
  let mantissa := match ds with
    | [] => []
    | [c] => [c]
    | c :: rest => c :: '.' :: rest
  String.ofList mantissa ++ "e" ++ (if 0 ≤ e then layout.exponentPlus ++ toString e.toNat
    else "-" ++ toString (-e).toNat)

def Layout.text (layout : Layout) (x : Binary64) : String :=
  let d := x.shortest
  let leading : Int := d.exp + (Nat.toDigits 10 d.digits).length - 1
  if layout.positional leading then positionalText layout d else exponentText layout d

/-- Always positional, integers without a point. -/
def Layout.plain : Layout := ⟨fun _ => true, "", ""⟩

/-- Always positional, integers with one zero after the point. -/
def Layout.pointed : Layout := ⟨fun _ => true, ".0", ""⟩

/-- Positional from `1e-5` up to below `1e16`, integers with one zero after the point. -/
def Layout.scientific : Layout := ⟨fun e => -5 ≤ e && e < 16, ".0", "+"⟩

end LobbyPlacement.Number
