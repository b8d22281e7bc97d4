import ConnectedHome.Document.Value
import ConnectedHome.Number.Shortest
import ConnectedHome.Text.Printable
/-!
# Literal text of values

Where a service turns a value into text it uses the *literal* form: `None`, `True`, `1.5`,
`1e+16`, `'quoted text'`, `[1, 'a']`, `{'k': [1.5]}`.  Two functions give it:

* `Value.display` is the text a value shows when it stands alone: text is itself.
* `Value.literal` is the text that reads back: text is quoted.

Inside lists and objects every element is written in its literal form.

Floats are written with the shortest decimal that reads back (`Number.shortest`), laid out by
one record, `FloatLayout.literal`: positional from `0.0001` up to `10^16`, an `e` exponent with a
sign and at least two digits elsewhere, and `.0` after integral positional values.
-/
namespace ConnectedHome

open Number

/-- How a float is laid out as text. -/
structure FloatLayout where
  /-- Positional notation when `lowPoint < pointAt ≤ highPoint`. -/
  lowPoint : Int
  highPoint : Int
  /-- The exponent mark. -/
  expMark : String
  /-- At least this many exponent digits. -/
  expDigits : Nat
  /-- Whether `.0` follows an integral positional value. -/
  pointZero : Bool
  /-- The texts of infinity and NaN. -/
  infinity : String
  nan : String

/-- The literal layout: `0.0001`, `1e-05`, `1000000000000000.0`, `1e+16`, `inf`, `nan`. -/
def FloatLayout.literal : FloatLayout := ⟨-4, 16, "e", 2, true, "inf", "nan"⟩

/-- Left-pads with zeros to `n` characters. -/
def padZeros (n : Nat) (s : String) : String :=
  String.ofList (List.replicate (n - s.length) '0') ++ s

/-- A decimal laid out by a layout, without sign. -/
def FloatLayout.layDecimal (l : FloatLayout) (d : Decimal) : String :=
  let s := d.text
  let p := d.pointAt
  if l.lowPoint < p && p ≤ l.highPoint then
    if p ≤ 0 then "0." ++ String.ofList (List.replicate (-p).toNat '0') ++ s
    else if p.toNat ≥ s.length then
      s ++ String.ofList (List.replicate (p.toNat - s.length) '0') ++ (if l.pointZero then ".0" else "")
    else String.ofList (s.toList.take p.toNat) ++ "." ++ String.ofList (s.toList.drop p.toNat)
  else
    let x := p - 1
    let mant := if s.length > 1 then String.ofList (s.toList.take 1) ++ "." ++
      String.ofList (s.toList.drop 1) else s
    mant ++ l.expMark ++ (if x < 0 then "-" else "+") ++ padZeros l.expDigits (toString x.natAbs)

/-- A float laid out by a layout. -/
def FloatLayout.lay (l : FloatLayout) (x : Float) : String :=
  match shape x with
  | .nan => l.nan
  | .infinite neg => (if neg then "-" else "") ++ l.infinity
  | .finite d =>
    let body := if d.mant == 0 then (if l.pointZero then "0.0" else "0") else l.layDecimal (shortest d)
    (if d.neg then "-" else "") ++ body

/-- The literal text of a float. -/
def floatText (x : Float) : String := FloatLayout.literal.lay x

/-- Lower-case hexadecimal digits of `n`, at least `w` of them. -/
def hexDigits (w : Nat) (n : Nat) : String :=
  padZeros w (String.ofList (Nat.toDigits 16 n))

/-- Text in quotes, readable back: single quotes unless the text holds a single quote and no
double quote; backslash escapes for the quote, the backslash and characters that are not
printable (`Text.isPrintable`). -/
def quoteText (s : String) : String :=
  let cs := s.toList
  let q : Char := if cs.contains '\'' && !cs.contains '"' then '"' else '\''
  let esc (c : Char) : String :=
    let n := c.toNat
    if c == q || c == '\\' then String.ofList ['\\', c]
    else if c == '\t' then "\\t"
    else if c == '\n' then "\\n"
    else if c == '\r' then "\\r"
    else if Text.isPrintable c then String.singleton c
    else if n < 0x100 then "\\x" ++ hexDigits 2 n
    else if n < 0x10000 then "\\u" ++ hexDigits 4 n
    else "\\U" ++ hexDigits 8 n
  String.singleton q ++ String.join (cs.map esc) ++ String.singleton q

namespace Value

mutual
/-- The literal form of a value: text is quoted. -/
def literal : Value → String
  | .null => "None"
  | .bool b => if b then "True" else "False"
  | .int i => toString i
  | .float x => floatText x
  | .str s => quoteText s
  | .list xs => "[" ++ ", ".intercalate (literalList xs) ++ "]"
  | .obj ms => "\x7b" ++ ", ".intercalate (literalMembers ms) ++ "\x7d"

/-- The literal forms of the elements of a list. -/
def literalList : List Value → List String
  | [] => []
  | v :: vs => literal v :: literalList vs

/-- The literal forms of the members of an object, `'name': value`. -/
def literalMembers : List (String × Value) → List String
  | [] => []
  | (k, v) :: ms => (quoteText k ++ ": " ++ literal v) :: literalMembers ms
end

/-- The text a value shows when it stands alone: text is itself, everything else is its
literal form. -/
def display : Value → String
  | .str s => s
  | v => literal v

end Value

end ConnectedHome
