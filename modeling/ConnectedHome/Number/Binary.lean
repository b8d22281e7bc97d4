/-!
# Binary floating point, read exactly

A finite float is `(-1)^s · m · 2^e` with an integer significand `m < 2^53` and an exponent
`-1074 ≤ e ≤ 971` (`Dyadic`).  This module takes floats apart into that form, builds the float
nearest to an exact rational (ties to the even significand, as reading a decimal does), and
cuts a float to an integer toward zero.

Everything here is integer arithmetic on the parts, so every conversion is exact up to the one
rounding step the rule names: the core operations on `Float` are used only for the
arithmetic the services themselves do.
-/
namespace ConnectedHome.Number

/-- A finite float as sign, significand and binary exponent. -/
structure Dyadic where
  neg : Bool
  mant : Nat
  exp : Int
deriving Inhabited

/-- The three shapes a float can have. -/
inductive FloatShape where
  | finite (d : Dyadic)
  | infinite (neg : Bool)
  | nan

/-- The bits of the significand field. -/
def fracBits : Nat := 52

/-- Takes a float apart.  Subnormals have exponent `-1074` and no hidden bit. -/
def shape (x : Float) : FloatShape :=
  let b : Nat := x.toBits.toNat
  let neg : Bool := b / Nat.pow 2 63 % 2 == 1
  let ef : Nat := b / Nat.pow 2 52 % 2048
  let frac : Nat := b % Nat.pow 2 52
  if ef == 2047 then
    if frac == 0 then .infinite neg else .nan
  else if ef == 0 then .finite ⟨neg, frac, -1074⟩
  else .finite ⟨neg, frac + Nat.pow 2 52, (ef : Int) - 1075⟩

/-- Whether a float is neither infinite nor NaN. -/
def isFinite (x : Float) : Bool :=
  match shape x with
  | .finite _ => true
  | _ => false

/-- Whether a float is negative, zeros and infinities included. -/
def signBit (x : Float) : Bool := x.toBits.toNat / Nat.pow 2 63 % 2 == 1

/-- The float with the given sign, biased exponent field and significand field. -/
def ofFields (neg : Bool) (ef frac : Nat) : Float :=
  Float.ofBits (UInt64.ofNat ((if neg then Nat.pow 2 63 else 0) + ef * Nat.pow 2 52 + frac))

/-- Positive infinity. -/
def infinity : Float := ofFields false 2047 0

/-- A NaN. -/
def notANumber : Float := ofFields false 2047 (Nat.pow 2 51)

/-- Negative zero. -/
def negZero : Float := ofFields true 0 0

/-- `⌊n / d⌋` and whether the remainder is more than, exactly or less than half of `d`:
the rounding of a quotient to the nearest integer, ties to even. -/
def roundHalfEven (n d : Nat) : Nat :=
  let q := n / d
  let r := n % d
  if 2 * r > d then q + 1
  else if 2 * r == d then (if q % 2 == 1 then q + 1 else q)
  else q

/-- `n · 2^k` for an integer `k`, as the pair (numerator, denominator). -/
def scale2 (n : Nat) (k : Int) : Nat × Nat :=
  if k ≥ 0 then (n * Nat.pow 2 k.toNat, 1) else (n, Nat.pow 2 (-k).toNat)

/-- The exponent `e` that puts `n / d` into `[2^52, 2^53) · 2^e`, from the bit lengths and
one correction step each way. -/
def binaryExponent (n d : Nat) : Int :=
  let e0 : Int := (n.log2 : Int) - (d.log2 : Int) - 52
  -- q = n / (d · 2^e0) lies in [2^51, 2^54)
  let fits (e : Int) : Nat :=
    let (a, b) := scale2 n (-e)
    a / (b * d)
  if fits e0 ≥ Nat.pow 2 53 then e0 + 1
  else if fits e0 < Nat.pow 2 52 then e0 - 1
  else e0

/-- The float nearest to `n / d` (`d > 0`), with the given sign; ties go to the even
significand, values past the largest float become infinite and tiny ones become subnormal
or zero. -/
def ofRatio (neg : Bool) (n d : Nat) : Float :=
  if n == 0 || d == 0 then (if neg then negZero else ofFields false 0 0)
  else
    let e := max (binaryExponent n d) (-1074)
    let (a, b) := scale2 n (-e)
    let q := roundHalfEven a (b * d)
    -- rounding may carry into the next binade
    let (q, e) := if q ≥ Nat.pow 2 53 then (q / 2, e + 1) else (q, e)
    if e > 971 then (if neg then ofFields true 2047 0 else infinity)
    else if q < Nat.pow 2 52 then ofFields neg 0 q
    else ofFields neg ((e + 1075).toNat) (q - Nat.pow 2 52)

/-- The float nearest to an integer. -/
def ofInt (i : Int) : Float := ofRatio (i < 0) i.natAbs 1

/-- The float nearest to `digits · 10^k`.  Magnitudes beyond `10^330` are infinite and below
`10^-345` are zero, which spares the exact arithmetic on huge powers of ten. -/
def ofDecimal (neg : Bool) (digits : Nat) (k : Int) : Float :=
  let size : Int := k + (toString digits).length
  if digits == 0 || size < -345 then (if neg then negZero else ofFields false 0 0)
  else if size > 330 then ofFields neg 2047 0
  else if k ≥ 0 then ofRatio neg (digits * Nat.pow 10 k.toNat) 1
  else ofRatio neg digits (Nat.pow 10 (-k).toNat)

/-- The value of a finite float as an exact fraction `(neg, numerator, denominator)`. -/
def Dyadic.ratio (d : Dyadic) : Bool × Nat × Nat :=
  let (a, b) := scale2 d.mant d.exp
  (d.neg, a, b)

/-- A float cut to an integer toward zero; none for infinities and NaN. -/
def truncate (x : Float) : Option Int :=
  match shape x with
  | .finite d =>
    let (a, b) := scale2 d.mant d.exp
    let q : Int := (a / b : Nat)
    some (if d.neg then -q else q)
  | _ => none

/-- Whether an integer is too large in magnitude to become a finite float. -/
def intOverflows (i : Int) : Bool := !isFinite (ofInt i)

/-- The float nearest to an integer plus a float, exactly as float addition of the
integer's nearest float would give it. -/
def addInt (x : Float) (i : Int) : Float := x + ofInt i

end ConnectedHome.Number
