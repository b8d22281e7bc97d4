import ConnectedHome.Text.FormatSpec
import ConnectedHome.Number.Rounded
import ConnectedHome.Number.Numeral
/-!
# Values laid out by format specifications

A value is laid out by a specification (`formatValue`) according to its type:

* **text** accepts the kind `s` only.  It refuses a sign, `z`, `#` and the alignment `=`, is cut
  to the precision and padded to the width, to the left by default;
* **integers** accept the kinds `d` and `n` (decimal), `b`, `o`, `x`, `X` (binary, octal and
  hexadecimal, with the prefixes `0b`, `0o`, `0x` in the alternate form), `c` (the character of
  that code) and the float kinds, for which they are converted to a float first.  They refuse
  a precision and `z`.  Truth values are integers here, but an empty specification writes
  them as `True` and `False`;
* **floats** accept `e`, `E` (scientific), `f`, `F`, `%` (fixed, the percentage multiplied by
  a hundred), `g`, `G`, `n` (general) and no kind at all, which is the general layout with at
  least one digit after the point, or the shortest digits that read back when no precision is
  given.  Numbers are aligned to the right by default;
* **other values** (none, lists, objects) accept only the empty specification.

The digits of a float come from its exact value (`Number.roundedDigits`,
`Number.roundedFixed`): the scientific layout shows `precision + 1` significant digits, the
fixed layout `precision` places, the general layout `precision` significant digits (at least
one) without trailing zeros, switching to the exponent when the point lies more than that
many places to the right or four or more places to the left of the first digit
(`layFloatDigits`).  The capital kinds write `E`, `INF` and `NAN`.  The kind `n` groups nothing.

An empty specification writes the value as it shows standing alone (`Value.display`).
-/
namespace ConnectedHome.Text

open Number

/-- The layouts of the digits of a float. -/
inductive FloatCode where
  /-- One digit before the point and an exponent. -/
  | scientific
  /-- A fixed number of places after the point. -/
  | fixed
  /-- Fixed or scientific, whichever suits the exponent. -/
  | general
  /-- The shortest digits that read back, fixed or scientific. -/
  | shortest
deriving DecidableEq, Inhabited

/-- The exponent of a scientific layout: a sign and at least two digits. -/
def exponentChars (x : Int) : List Char :=
  (if x < 0 then '-' else '+') :: (padZeros 2 (toString x.natAbs)).toList

/-- The significant digits and the point (the magnitude is `0.d₁d₂… · 10^point`) of a finite
magnitude under a layout: `precision` significant digits for the scientific and general
layouts, `precision` places for the fixed one, the shortest digits otherwise.  Zero is the
digit `0` with the point after it; a magnitude that rounds to nothing in the fixed layout has
no digits. -/
def floatDigits (code : FloatCode) (precision : Nat) (d : Number.Dyadic) : List Char × Int :=
  if d.mant == 0 then (['0'], 1)
  else
    let dec := match code with
      | .scientific | .general => roundedDigits d precision
      | .fixed => roundedFixed d precision
      | .shortest => shortest d
    if dec.digits == 0 then ([], -(precision : Int)) else (dec.text.toList, dec.pointAt)

/-- Lays out the digits `ds` of a magnitude with its point at `point`.  The scientific layout
shows `precision` digits in all, the fixed one `precision` places; the general and shortest
layouts show the digits they have (the general one `precision` of them in the alternate
form).  `addDot0` keeps one place after the point of a positional layout; a point with
nothing after it is dropped unless the form is alternate. -/
def layFloatDigits (code : FloatCode) (precision : Nat) (addDot0 alternate : Bool) (mark : Char)
    (ds : List Char) (point : Int) : List Char :=
  let n : Int := ds.length
  let (useExp, ends) : Bool × Int := match code with
    | .scientific => (true, precision)
    | .fixed => (false, point + precision)
    | .general =>
      (point ≤ -4 || point > (if addDot0 then (precision : Int) - 1 else precision),
        if alternate then precision else n)
    | .shortest => (point ≤ -4 || point > 16, n)
  let exponent := point - 1
  let point := if useExp then 1 else point
  let start : Int := if point ≤ 0 then point - 1 else 0
  let ends := if !useExp && addDot0 then max ends (point + 1) else max ends point
  let zeros (k : Int) : List Char := List.replicate k.toNat '0'
  let lead := if point ≤ 0 then zeros (point - start) ++ ['.'] ++ zeros (-point) else zeros (-start)
  let mid := if 0 < point && point ≤ n then ds.take point.toNat ++ ['.'] ++ ds.drop point.toNat
    else ds
  let tail := if n < point then zeros (point - n) ++ ['.'] ++ zeros (ends - point)
    else zeros (ends - n)
  let body := lead ++ mid ++ tail
  let body := if body.getLast? == some '.' && !alternate then body.dropLast else body
  if useExp then body ++ mark :: exponentChars exponent else body

/-- The largest precision a float accepts. -/
def floatPrecisionLimit : Nat := 2147483647

/-- A float laid out by a specification whose kind is a float kind or none. -/
def formatFloat (f : FormatSpec) (x : Float) : Except Fault String := do
  if f.precision.getD 0 > floatPrecisionLimit then throw (.badValue "precision too big")
  let kind := f.kind
  let (code, defaultPrecision, addDot0) : FloatCode × Nat × Bool := match kind with
    | none => (.shortest, 0, true)
    | some 'e' | some 'E' => (.scientific, 6, false)
    | some 'f' | some 'F' | some '%' => (.fixed, 6, false)
    | _ => (.general, 6, false)
  let percent := kind == some '%'
  let x := if percent then x * 100.0 else x
  let code := if f.precision.isSome && code == .shortest then .general else code
  let precision := f.precision.getD defaultPrecision
  let precision := match code with
    | .scientific => precision + 1
    | .general => max precision 1
    | _ => precision
  let upper := kind == some 'E' || kind == some 'F' || kind == some 'G'
  let (negative, body) : Bool × List Char := match shape x with
    | .nan => (false, (if upper then "NAN" else "nan").toList)
    | .infinite neg => (neg, (if upper then "INF" else "inf").toList)
    | .finite d =>
      let (ds, point) := floatDigits code precision d
      let zero := ds.isEmpty || ds == ['0']
      (d.neg && !(f.noNegZero && zero),
        layFloatDigits code precision addDot0 f.alternate (if upper then 'E' else 'e') ds point)
  let body := if percent then body ++ ['%'] else body
  let (digits, after) := body.span Char.isDigit
  let (point, rest) := match after with
    | '.' :: r => (true, r)
    | _ => (false, after)
  let grouping := if kind == some 'n' then none else f.grouping.map fun g => (3, g.char)
  return NumberParts.lay f grouping { negative, digits, point, rest }

/-- An integer laid out by a specification whose kind is an integer kind. -/
def formatInt (f : FormatSpec) (i : Int) : Except Fault String := do
  if f.precision.isSome then throw (.badValue "Precision not allowed in integer format specifier")
  if f.noNegZero then
    throw (.badValue "Negative zero coercion (z) not allowed in integer format specifier")
  if f.kind == some 'c' then
    if f.sign.isSome then throw (.badValue "Sign not allowed with integer format specifier 'c'")
    if f.alternate then
      throw (.badValue "Alternate form (#) not allowed with integer format specifier 'c'")
    if i ≥ Int.pow 2 63 || i < -Int.pow 2 63 then throw (.overflow "Python int too large to convert to C long")
    if i < 0 || i > 0x10ffff then throw (.overflow "%c arg not in range(0x110000)")
    return NumberParts.lay f none { negative := false, digits := [], rest := [Char.ofNat i.toNat] }
  let (base, lead) : Nat × String := match f.kind with
    | some 'b' => (2, "0b")
    | some 'o' => (8, "0o")
    | some 'x' | some 'X' => (16, "0x")
    | _ => (10, "")
  let upper := f.kind == some 'X'
  let digits := Nat.toDigits base i.natAbs
  let digits := if upper then digits.map Char.toUpper else digits
  let lead := if !f.alternate then "" else if upper then lead.toUpper else lead
  let grouping := if f.kind == some 'n' then none
    else f.grouping.map fun g => (if base == 10 then 3 else 4, g.char)
  return NumberParts.lay f grouping { negative := i < 0, lead, digits }

/-- Text laid out by a specification of kind `s`. -/
def formatText (f : FormatSpec) (s : String) : Except Fault String := do
  if let some sign := f.sign then
    if sign == .space then throw (.badValue "Space not allowed in string format specifier")
    throw (.badValue "Sign not allowed in string format specifier")
  if f.noNegZero then
    throw (.badValue "Negative zero coercion (z) not allowed in string format specifier")
  if f.alternate then
    throw (.badValue "Alternate form (#) not allowed in string format specifier")
  if f.align == .afterSign then
    throw (.badValue "'=' alignment not allowed in string format specifier")
  return String.ofList (f.layText s.toList)

/-- Whether a kind is one of the float kinds. -/
def isFloatKind (k : Char) : Bool := "eEfFgGn%".toList.contains k

/-- An integer of type `typeName` laid out by a non-empty specification. -/
def formatIntegral (typeName : String) (spec : List Char) (i : Int) : Except Fault String := do
  let f ← FormatSpec.read typeName (some 'd') .right spec
  match f.kind with
  | some k =>
    if "bcdoxXn".toList.contains k then formatInt f i
    else if isFloatKind k || k == '%' then formatFloat f (← intToFloat i)
    else throw (unknownKind k typeName)
  | none => formatInt f i

/-- The refusal of a specification by a value that accepts only the empty one. -/
def unsupportedSpec (typeName : String) : Fault :=
  .badType s!"unsupported format string passed to {typeName}.__format__"

/-- A value laid out by a specification; see the module notes. -/
def formatValue (spec : List Char) (v : Value) : Except Fault String :=
  if spec.isEmpty then .ok v.display
  else match v with
    | .str s => do
      let f ← FormatSpec.read "str" (some 's') .left spec
      if f.kind == some 's' then formatText f s else throw (unknownKind (f.kind.getD 's') "str")
    | .int i => formatIntegral "int" spec i
    | .bool b => formatIntegral "bool" spec (if b then 1 else 0)
    | .float x => do
      let f ← FormatSpec.read "float" none .right spec
      match f.kind with
      | none => formatFloat f x
      | some k => if isFloatKind k then formatFloat f x else throw (unknownKind k "float")
    | _ => .error (unsupportedSpec v.kind)

end ConnectedHome.Text
