import ConnectedHome.Fault
import ConnectedHome.Text.Blank
/-!
# Reading numbers

Services send numbers as numbers and as text, so values are converted on the way in:

* `readFloat` reads a decimal numeral with an optional exponent, or `inf`, `infinity`, `nan` in
  any letter case, each with an optional sign.  Digits of any script count, blanks around the
  numeral are ignored, and single underscores may stand between two digits.  The result is the
  float nearest to the numeral.
* `readInt` reads an optionally signed run of digits, with the same rules for scripts, blanks
  and underscores.
* `Value.toFloat` and `Value.toInt` convert any value: truth values are `0` and `1`, floats are
  cut toward zero, and anything that is neither number nor text has no numeric value.

The messages quote the text as it was given, before any mapping of digits or blanks.
-/
namespace ConnectedHome.Number

open Text

/-- A parsed numeral: sign, digits as a natural number, and the power of ten to apply. -/
structure Numeral where
  neg : Bool
  digits : Nat
  exp10 : Int

/-- What a float numeral denotes. -/
inductive FloatText where
  | finite (n : Numeral)
  | infinite (neg : Bool)
  | nan

/-- The digits at the head of a list, as characters, and the rest. -/
def spanDigits (cs : List Char) : List Char × List Char :=
  (cs.takeWhile Char.isDigit, cs.dropWhile Char.isDigit)

/-- The value of a list of ASCII digits. -/
def digitsValue (ds : List Char) : Nat :=
  ds.foldl (fun acc c => acc * 10 + (c.toNat - 48)) 0

/-- Removes underscores that stand between two digits; none when an underscore stands
anywhere else. -/
def dropDigitUnderscores (cs : List Char) : Option (List Char) :=
  let rec go (prev : Char) : List Char → Option (List Char)
    | [] => if prev == '_' then none else some []
    | c :: rest =>
      if c == '_' then
        if prev.isDigit then go c rest else none
      else if prev == '_' && !c.isDigit then none
      else (go c rest).map (c :: ·)
  go ' ' cs

/-- The sign at the head of a list. -/
def takeSign (cs : List Char) : Bool × List Char :=
  match cs with
  | '-' :: rest => (true, rest)
  | '+' :: rest => (false, rest)
  | _ => (false, cs)

/-- Reads `digits [. digits] [e [sign] digits]` or `. digits [e …]`, the whole list. -/
def parseDecimalBody (neg : Bool) (cs : List Char) : Option Numeral :=
  let (ip, rest) := spanDigits cs
  let (fp, rest) := match rest with
    | '.' :: r => spanDigits r
    | _ => ([], rest)
  if ip.isEmpty && fp.isEmpty then none
  else
    let mant := digitsValue (ip ++ fp)
    let scale : Int := -(fp.length : Int)
    match rest with
    | [] => some ⟨neg, mant, scale⟩
    | c :: r =>
      if c == 'e' || c == 'E' then
        let (eneg, r) := takeSign r
        let (ed, r) := spanDigits r
        if ed.isEmpty || !r.isEmpty then none
        else
          let ev : Int := digitsValue ed
          some ⟨neg, mant, scale + (if eneg then -ev else ev)⟩
      else none

/-- Reads a float numeral that has been mapped to ASCII and trimmed. -/
def parseFloatText (cs : List Char) : Option FloatText :=
  let (neg, body) := takeSign cs
  let word := String.ofList (body.map Char.toLower)
  if word == "inf" || word == "infinity" then some (.infinite neg)
  else if word == "nan" then some .nan
  else (parseDecimalBody neg body).map .finite

/-- The float a numeral denotes. -/
def Numeral.toFloat (n : Numeral) : Float := ofDecimal n.neg n.digits n.exp10

/-- The float of a float numeral. -/
def FloatText.toFloat : FloatText → Float
  | .finite n => n.toFloat
  | .infinite neg => if neg then -infinity else infinity
  | .nan => notANumber

/-- The characters of a numeral as it is read: digits of any script become ASCII digits,
blanks become spaces, and blanks at both ends are dropped. -/
def numeralChars (s : String) : List Char :=
  let cs := s.toList.map asciiDigitsAndBlanks
  ((cs.dropWhile isAsciiBlank).reverse.dropWhile isAsciiBlank).reverse

/-- Reads a float from text. -/
def readFloat (s : String) : Except Fault Float :=
  let bad : Fault := .badValue s!"could not convert string to float: {quoteText s}"
  let cs := numeralChars s
  match (if cs.contains '_' then dropDigitUnderscores cs else some cs) with
  | none => .error bad
  | some cs =>
    match parseFloatText cs with
    | some t => .ok t.toFloat
    | none => .error bad

/-- The most digits an integer is read or written with. -/
def maxIntDigits : Nat := 4300

/-- The refusal of an integer numeral with `digits` digits, more than `maxIntDigits`. -/
def tooManyDigitsText (digits : Nat) : String :=
  s!"Exceeds the limit ({maxIntDigits} digits) for integer string conversion: value has {digits} digits; use sys.set_int_max_str_digits() to increase the limit"

/-- The number of digits in the run of digits and underscores a numeral starts with, when the
underscores in it are well placed. -/
def leadingDigitCount (cs : List Char) : Option Nat :=
  (dropDigitUnderscores (cs.takeWhile fun c => c.isDigit || c == '_')).map List.length

/-- Reads an integer from text.  A numeral whose leading digits are more than `maxIntDigits`
is refused as too long before the rest of it is looked at. -/
def readInt (s : String) : Except Fault Int :=
  let bad : Fault := .badValue s!"invalid literal for int() with base 10: {quoteText s}"
  let cs := numeralChars s
  let (neg, body) := takeSign cs
  let tooLong := match leadingDigitCount body with
    | some n => if n > maxIntDigits then some n else none
    | none => none
  match tooLong, body with
  | some n, _ => .error (.badValue (tooManyDigitsText n))
  | none, c :: _ =>
    if !c.isDigit then .error bad
    else
      match dropDigitUnderscores body with
      | some ds =>
        if ds.all Char.isDigit then
          let v : Int := digitsValue ds
          .ok (if neg then -v else v)
        else .error bad
      | none => .error bad
  | none, [] => .error bad

/-- The integer part of a float, toward zero. -/
def floatToInt (x : Float) : Except Fault Int :=
  match shape x with
  | .nan => .error (.badValue "cannot convert float NaN to integer")
  | .infinite _ => .error (.overflow "cannot convert float infinity to integer")
  | .finite _ => .ok ((truncate x).getD 0)

/-- A float rounded to the nearest integer, a tie to the even one; NaN and the infinities have
none. -/
def roundFloat (x : Float) : Except Fault Int :=
  match shape x with
  | .nan => .error (.badValue "cannot convert float NaN to integer")
  | .infinite _ => .error (.overflow "cannot convert float infinity to integer")
  | .finite d =>
    let (a, b) := scale2 d.mant d.exp
    let q : Int := roundHalfEven a b
    .ok (if d.neg then -q else q)

/-- The float nearest to the quotient of two integers, refused when it lies past the largest
float or the divisor is zero. -/
def divideInts (a b : Int) : Except Fault Float :=
  if b == 0 then .error (.zeroDivision "division by zero")
  else
    let x := ofRatio ((a < 0) != (b < 0)) a.natAbs b.natAbs
    if isFinite x then .ok x else .error (.overflow "integer division result too large for a float")

/-- The float nearest to an integer, refused past the largest float. -/
def intToFloat (i : Int) : Except Fault Float :=
  let x := ofInt i
  if isFinite x then .ok x else .error (.overflow "int too large to convert to float")

end ConnectedHome.Number

namespace ConnectedHome.Value

open Number

/-- The float value of a value: numbers and truth values convert, text is read. -/
def toFloat (v : Value) : Except Fault Float :=
  match v with
  | .float x => .ok x
  | .int i => intToFloat i
  | .bool b => .ok (if b then 1.0 else 0.0)
  | .str s => readFloat s
  | _ => .error (.badType s!"float() argument must be a string or a real number, not '{v.kind}'")

/-- The integer value of a value: floats are cut toward zero, text is read. -/
def toInt (v : Value) : Except Fault Int :=
  match v with
  | .int i => .ok i
  | .bool b => .ok (if b then 1 else 0)
  | .float x => floatToInt x
  | .str s => readInt s
  | _ => .error (.badType
      s!"int() argument must be a string, a bytes-like object or a real number, not '{v.kind}'")

end ConnectedHome.Value
