import ConnectedHome.Number.Shortest
/-!
# Floats rounded to a count of decimal digits

Fixed and scientific layouts round the exact binary value of a float, never a decimal that
was rounded before: `roundedFixed d p` is the magnitude rounded to `p` places after the point
and `roundedDigits d n` the magnitude rounded to `n` significant digits.  An exact tie goes to
the even neighbour in both, so `0.125` is `0.12` to two places and `2.5` is `2` to none.

A float is `m · 2^e` with `e ≥ -1074`, so its decimal expansion ends within 1074 places after
the point and holds at most 767 significant digits.  Past those counts rounding changes
nothing, and the digits are computed at the bound (`exactPlaces`, `exactDigits`): the places
beyond it are zeros that the layout adds.
-/
namespace ConnectedHome.Number

/-- `y · 2^e / 10^k` rounded to the nearest integer, a tie to the even one. -/
def roundScaled (y : Nat) (e k : Int) : Nat :=
  roundHalfEven (y * Nat.pow 2 (max e 0).toNat * Nat.pow 10 (max (-k) 0).toNat)
    (Nat.pow 2 (max (-e) 0).toNat * Nat.pow 10 (max k 0).toNat)

/-- Places after the point past which every float's expansion is zero. -/
def exactPlaces : Nat := 1075

/-- Significant digits past which every float's expansion is zero. -/
def exactDigits : Nat := 800

/-- The magnitude of a finite float rounded to `places` places after the point, without
trailing zeros; zero when it rounds to nothing. -/
def roundedFixed (d : Dyadic) (places : Nat) : Decimal :=
  let p : Int := min places exactPlaces
  Decimal.normalize ⟨roundScaled d.mant d.exp (-p), -p⟩

/-- The magnitude of a finite float rounded to `n` significant digits (at least one), without
trailing zeros; zero is `0 · 10^0`. -/
def roundedDigits (d : Dyadic) (n : Nat) : Decimal :=
  if d.mant == 0 then ⟨0, 0⟩
  else
    let t := decimalExponent d.mant d.exp
    let k := t + 1 - (max 1 (min n exactDigits) : Nat)
    Decimal.normalize ⟨roundScaled d.mant d.exp k, k⟩

end ConnectedHome.Number
