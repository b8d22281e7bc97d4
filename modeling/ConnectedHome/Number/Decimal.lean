import ConnectedHome.Number.Numeral
import ConnectedHome.Text.Case
/-!
# Decimal numbers and rounding half up

A decimal is `±c · 10^e` with a natural coefficient, or one of the specials infinity, NaN and
signalling NaN (`DecimalNumber`).  Readings are written in decimal, so measured values are
rounded in decimal too: `quantizeHalfUp` rounds to a fixed exponent, a half going away from zero.

Rounding works in a context of 28 significant digits and adjusted exponents up to 999999.  The
quantum `10^-places` is first made a number of that context (`quantumExponent`): one too large
overflows, one too small becomes zero at the context's smallest exponent, and a jump of the
exponent beyond twice the context's range is refused.  A result that needs more digits, an
exponent outside the context, or the rounding of an infinity has no defined result and is
refused (`DecimalSignal.invalidOperation`); text that is no numeral is refused as
`DecimalSignal.conversionSyntax`.  A NaN rounds to NaN.

Text is read exactly, in the widest context there is (`readDecimal`): a numeral whose value
would need rounding there, because its exponent lies beyond about `±10^18`, is refused.

`roundHalfUp` rounds a value through its shortest decimal text, so `2.675` rounds to `2.68`
although the float nearest to `2.675` lies below it.
-/
namespace ConnectedHome.Number

open Text

/-- A decimal number. -/
inductive DecimalNumber where
  | finite (neg : Bool) (coeff : Nat) (exp : Int)
  | infinite (neg : Bool)
  | nan (neg : Bool)
  | signalingNan (neg : Bool)

/-- Significant digits of the rounding context. -/
def contextPrecision : Nat := 28

/-- Largest adjusted exponent of the rounding context. -/
def contextEmax : Int := 999999

/-- Smallest exponent of the rounding context. -/
def contextEtiny : Int := -999999 - (contextPrecision : Int) + 1

/-- Largest adjusted exponent of the widest context, in which text is read. -/
def widestEmax : Int := 999999999999999999

/-- Smallest exponent of the widest context, in which text is read. -/
def widestEtiny : Int := -999999999999999999 - 999999999999999998

/-- The number of decimal digits of a natural number (one for zero). -/
def digitCount (n : Nat) : Nat := (toString n).length

/-- The characters of a decimal numeral as it is read: blanks at both ends dropped,
underscores dropped, digits of any script and inner blanks mapped to ASCII; none when a
character is neither ASCII, a blank nor a digit. -/
def decimalChars (s : String) : Option (List Char) :=
  let cs := (trimBlanks s).toList.filter (· != '_')
  cs.mapM fun c =>
    if c.toNat < 128 then some c
    else if isBlank c then some ' '
    else (digitValue? c).map (fun d => Char.ofNat (48 + d))

/-- Reads a decimal numeral: a signed numeral with optional point and exponent, or infinity,
NaN and signalling NaN with an optional payload, letters in any case. -/
def readDecimal (s : String) : Except Fault DecimalNumber :=
  let bad : Fault := .decimal .conversionSyntax
  match decimalChars s with
  | none => .error bad
  | some cs =>
    let (neg, body) := takeSign cs
    let word := String.ofList (body.map Char.toLower)
    if word == "inf" || word == "infinity" then .ok (.infinite neg)
    else if word.startsWith "snan" && (word.drop 4).all Char.isDigit then .ok (.signalingNan neg)
    else if word.startsWith "nan" && (word.drop 3).all Char.isDigit then .ok (.nan neg)
    else match parseDecimalBody neg body with
      | some n =>
        if n.exp10 + digitCount n.digits - 1 ≤ widestEmax && widestEtiny ≤ n.exp10 then
          .ok (.finite n.neg n.digits n.exp10)
        else .error (.decimal .invalidOperation)
      | none => .error bad

/-- The float nearest to a decimal; a signalling NaN has none. -/
def DecimalNumber.toFloat : DecimalNumber → Except Fault Float
  | .finite neg c e => .ok (ofDecimal neg c e)
  | .infinite neg => .ok (if neg then -infinity else infinity)
  | .nan _ => .ok notANumber
  | .signalingNan _ => .error (.badValue "cannot convert signaling NaN to float")

/-- `c / 10^k` rounded to an integer, a half going up.  A divisor with more digits than `c`
leaves less than a half, so the power is only formed when it is no larger than `c` allows. -/
def divPow10HalfUp (c k : Nat) : Nat :=
  if k > digitCount c then 0
  else
    let d := Nat.pow 10 k
    let q := c / d
    if 2 * (c % d) ≥ d then q + 1 else q

/-- Rounds a decimal to exponent `t`, a half going away from zero. -/
def quantizeHalfUp (x : DecimalNumber) (t : Int) : Except Fault DecimalNumber :=
  let invalid : Fault := .decimal .invalidOperation
  match x with
  | .nan neg => .ok (.nan neg)
  | .signalingNan _ => .error invalid
  | .infinite _ => .error invalid
  | .finite neg c e =>
    if t > contextEmax || t < contextEtiny then .error invalid
    else if c != 0 && t < e && digitCount c + (e - t).toNat > contextPrecision then .error invalid
    else
      let c' := if t ≥ e then divPow10HalfUp c (t - e).toNat else c * Nat.pow 10 (e - t).toNat
      let adjusted : Int := t + digitCount c' - 1
      if digitCount c' > contextPrecision || adjusted > contextEmax then .error invalid
      else .ok (.finite neg c' t)

/-- The decimal a value is written as: numbers through their literal text, anything else is
no numeral. -/
def decimalOfValue : Value → Except Fault DecimalNumber
  | .int i => .ok (.finite (i < 0) i.natAbs 0)
  | .float x =>
    match shape x with
    | .nan => .ok (.nan false)
    | .infinite neg => .ok (.infinite neg)
    | .finite d =>
      let s := shortest d
      .ok (.finite d.neg s.digits (if d.mant == 0 then 0 else s.exp10))
  | _ => .error (.decimal .conversionSyntax)

/-- The exponent of the quantum `10^-places` in the rounding context; see the module notes. -/
def quantumExponent (places : Int) : Except Fault Int :=
  let n := -places
  if n.natAbs > 2 * (contextEmax.toNat + contextPrecision) then .error (.decimal .invalidOperation)
  else if n > contextEmax then .error (.decimal .overflow)
  else if n < contextEtiny then .ok contextEtiny
  else .ok n

/-- The number of places a value asks to round to: a whole number, or a truth value counting
as 0 or 1. -/
def roundingPlaces (v : Value) : Except Fault Int :=
  match v with
  | .int i => .ok i
  | .bool b => .ok (if b then 1 else 0)
  | .float _ => .error (.badType "conversion from float to Decimal is not supported")
  | _ => .error (.badType s!"bad operand type for unary -: '{v.kind}'")

/-- Rounds a number to `places` places after the point, a half going away from zero, and
returns the float nearest to the rounded decimal. -/
def roundHalfUp (v : Value) (places : Int := 2) : Except Fault Float := do
  let t ← quantumExponent places
  let d ← decimalOfValue v
  let q ← quantizeHalfUp d t
  q.toFloat

end ConnectedHome.Number
