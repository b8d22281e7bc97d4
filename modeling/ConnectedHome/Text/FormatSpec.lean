import ConnectedHome.Fault
import ConnectedHome.Text.Blank
/-!
# Format specifications

A field of a template may carry a format specification, written
`[[fill]align][sign][z][#][0][width][grouping][.precision][kind]` (`FormatSpec.read`):

* the alignment is `<` (left), `>` (right), `^` (centred) or `=` (padding between the sign and
  the digits); a fill character may precede it;
* the sign is `+` (always), `-` (negatives only) or a space (a space for positives); `z` makes
  a negative zero positive; `#` asks for the alternate form;
* a `0` before the width, when no fill was given, pads with zeros, and for values aligned to
  the right by default it also moves the padding after the sign;
* width and precision are decimal numbers written in the digits of any script, below `2^63`;
* the grouping is `,` or `_`.  A `,` goes with the decimal and float kinds only, a `_` also
  with the binary, octal and hexadecimal kinds, where it separates groups of four;
* the kind is a single character; which kinds a value accepts, and what they mean, depends on
  the value.

The layout of a number (`NumberParts.lay`) is: padding, sign, prefix, padding, the grouped
digits before the point, the point, the rest, padding.  With the fill `0` and the alignment
`=` the digits themselves are padded with zeros, and the separators go on into those zeros
(`groupDigits`).
-/
namespace ConnectedHome.Text

/-- Where the padding of a field goes. -/
inductive Align where
  | left
  | right
  | center
  /-- Between the sign and the digits. -/
  | afterSign
deriving DecidableEq, Inhabited

/-- The alignment a character names. -/
def Align.ofChar? : Char → Option Align
  | '<' => some .left
  | '>' => some .right
  | '^' => some .center
  | '=' => some .afterSign
  | _ => none

/-- When a number shows its sign. -/
inductive SignMode where
  /-- Only when it is negative (`-`). -/
  | negative
  /-- Always (`+`). -/
  | always
  /-- A space stands where a positive number's sign would be. -/
  | space
deriving DecidableEq, Inhabited

/-- The separators between groups of digits. -/
inductive Grouping where
  | comma
  | underscore
deriving DecidableEq, Inhabited

/-- The character of a separator. -/
def Grouping.char : Grouping → Char
  | .comma => ','
  | .underscore => '_'

/-- A format specification.  `sign` is none when no sign was written: a `-` written counts,
since some values refuse any sign.  `kind` is none when neither the specification nor the
value gives one. -/
structure FormatSpec where
  fill : Char := ' '
  align : Align
  sign : Option SignMode := none
  noNegZero : Bool := false
  alternate : Bool := false
  width : Option Nat := none
  grouping : Option Grouping := none
  precision : Option Nat := none
  kind : Option Char := none
deriving Inhabited

/-- The largest width or precision a specification may give. -/
def specLimit : Nat := Nat.pow 2 63 - 1

/-- The refusal of a number past `specLimit`. -/
def tooManyDigits : Fault := .badValue "Too many decimal digits in format string"

/-- Reads decimal digits of any script from the front, adding them to `acc`; gives the number,
how many digits were read and the rest.  Refused as soon as the number passes `specLimit`,
whatever follows. -/
def readSpecNumber : List Char → Nat → Nat → Except Fault (Nat × Nat × List Char)
  | [], acc, n => .ok (acc, n, [])
  | c :: rest, acc, n =>
    match digitValue? c with
    | none => .ok (acc, n, c :: rest)
    | some d =>
      if acc > (specLimit - d) / 10 then .error tooManyDigits
      else readSpecNumber rest (10 * acc + d) (n + 1)

/-- Lower-case hexadecimal digits of a number, as few as needed. -/
def shortHex (n : Nat) : String := String.ofList (Nat.toDigits 16 n)

/-- A kind character as refusals show it: itself when it is visible ASCII, else its code. -/
def kindText (c : Char) : String :=
  if 32 < c.toNat && c.toNat < 128 then String.singleton c else "\\x" ++ shortHex c.toNat

/-- The refusal of a kind the value does not have. -/
def unknownKind (c : Char) (typeName : String) : Fault :=
  .badValue s!"Unknown format code '{kindText c}' for object of type '{typeName}'"

/-- The refusal of a grouping with a kind it does not go with. -/
def groupingRefused (g : Grouping) (c : Char) : Fault :=
  .badValue s!"Cannot specify '{g.char}' with '{kindText c}'."

/-- The refusal of both separators at once. -/
def bothSeparators : Fault := .badValue "Cannot specify both ',' and '_'."

/-- Whether a kind accepts a grouping: `,` the decimal and float kinds, `_` also binary, octal
and hexadecimal. -/
def groupingFits (g : Grouping) : Option Char → Bool
  | none => true
  | some k =>
    "defgEG%F".toList.contains k || (g == .underscore && "boxX".toList.contains k)

/-- Reads the fill and alignment at the front of a specification. -/
def readAlign (spec : List Char) : Option Char × Option Align × List Char :=
  match spec with
  | f :: a :: rest =>
    match Align.ofChar? a with
    | some al => (some f, some al, rest)
    | none =>
      match Align.ofChar? f with
      | some al => (none, some al, a :: rest)
      | none => (none, none, spec)
  | [a] =>
    match Align.ofChar? a with
    | some al => (none, some al, [])
    | none => (none, none, spec)
  | [] => (none, none, [])

/-- Reads the sign at the front. -/
def readSign (cs : List Char) : Option SignMode × List Char :=
  match cs with
  | '+' :: r => (some .always, r)
  | '-' :: r => (some .negative, r)
  | ' ' :: r => (some .space, r)
  | _ => (none, cs)

/-- Reads the grouping at the front: a second, different separator is refused, a repeated one
is left for the kind. -/
def readGrouping (cs : List Char) : Except Fault (Option Grouping × List Char) :=
  match cs with
  | ',' :: '_' :: _ => .error bothSeparators
  | '_' :: ',' :: _ => .error bothSeparators
  | ',' :: r => .ok (some .comma, r)
  | '_' :: r => .ok (some .underscore, r)
  | _ => .ok (none, cs)

/-- Reads a specification for a value of type `typeName`, whose kind and alignment default to
`defaultKind` and `defaultAlign`. -/
def FormatSpec.read (typeName : String) (defaultKind : Option Char) (defaultAlign : Align)
    (spec : List Char) : Except Fault FormatSpec := do
  let (fill, align, cs) := readAlign spec
  let (sign, cs) := readSign cs
  let (noNegZero, cs) := match cs with
    | 'z' :: r => (true, r)
    | _ => (false, cs)
  let (alternate, cs) := match cs with
    | '#' :: r => (true, r)
    | _ => (false, cs)
  let (zeroPad, cs) := match fill, cs with
    | none, '0' :: r => (true, r)
    | _, _ => (false, cs)
  let align := match align with
    | some a => a
    | none => if zeroPad && defaultAlign == .right then .afterSign else defaultAlign
  let (width, widthDigits, cs) ← readSpecNumber cs 0 0
  let (grouping, cs) ← readGrouping cs
  let (precision, cs) ← match cs with
    | '.' :: r => do
      let (p, n, rest) ← readSpecNumber r 0 0
      if n == 0 then throw (.badValue "Format specifier missing precision")
      pure (some p, rest)
    | _ => pure (none, cs)
  let kind ← match cs with
    | [] => pure defaultKind
    | [k] => pure (some k)
    | _ => throw (.badValue
        s!"Invalid format specifier '{String.ofList spec}' for object of type '{typeName}'")
  if let some g := grouping then
    if !groupingFits g kind then throw (groupingRefused g (kind.getD ' '))
  return { fill := if zeroPad then '0' else fill.getD ' ', align, sign, noNegZero, alternate,
           width := if widthDigits == 0 then none else some width, grouping, precision, kind }

/-- `n` fill characters. -/
def FormatSpec.fills (f : FormatSpec) (n : Nat) : List Char := List.replicate n f.fill

/-- Text cut to the precision and padded to the width. -/
def FormatSpec.layText (f : FormatSpec) (cs : List Char) : List Char :=
  let cs := match f.precision with
    | some p => cs.take p
    | none => cs
  let extra := f.width.getD 0 - cs.length
  match f.align with
  | .right => f.fills extra ++ cs
  | .center => f.fills (extra / 2) ++ cs ++ f.fills (extra - extra / 2)
  | _ => cs ++ f.fills extra

/-- Groups digits from the right by `size`, with `sep` between the groups, padding them on the
left with zeros to at least `minWidth` characters; the zeros are grouped like digits.  `fuel`
bounds the groups: each takes a digit or at least one character of the width. -/
def groupFrom (size : Nat) (sep : Char) : Nat → List Char → Int → Bool → List Char → List Char
  | 0, _, _, _, acc => acc
  | fuel + 1, rev, width, first, acc =>
    let len := min size (max (max rev.length width.toNat) 1)
    let taken := min rev.length len
    let chunk := List.replicate (len - rev.length) '0' ++ (rev.take taken).reverse
    let acc := chunk ++ (if first then [] else [sep]) ++ acc
    let rev := rev.drop taken
    let width := width - len
    if rev.isEmpty && width ≤ 0 then acc
    else groupFrom size sep fuel rev (width - 1) false acc

/-- Digits grouped and padded with zeros to `minWidth`: in groups of `size` separated by `sep`
when a grouping is given, else only padded. -/
def groupDigits (grouping : Option (Nat × Char)) (ds : List Char) (minWidth : Nat) : List Char :=
  match grouping with
  | some (size, sep) =>
    groupFrom (max size 1) sep (ds.length + minWidth + 1) ds.reverse minWidth true []
  | none => List.replicate (minWidth - ds.length) '0' ++ ds

/-- A number taken apart for layout: its sign, a prefix such as `0x`, the digits before the
point, whether a point follows, and what follows the point (fraction, exponent, `%`). -/
structure NumberParts where
  negative : Bool
  lead : String := ""
  digits : List Char
  point : Bool := false
  rest : List Char := []

/-- The sign a number shows under a specification. -/
def FormatSpec.signChars (f : FormatSpec) (negative : Bool) : List Char :=
  match f.sign with
  | some .always => [if negative then '-' else '+']
  | some .space => [if negative then '-' else ' ']
  | _ => if negative then ['-'] else []

/-- Lays a number out under a specification, grouping its digits as `grouping` says. -/
def NumberParts.lay (f : FormatSpec) (grouping : Option (Nat × Char)) (p : NumberParts) : String :=
  let sign := f.signChars p.negative
  let fixed := sign.length + p.lead.length + (if p.point then 1 else 0) + p.rest.length
  let minWidth := if f.fill == '0' && f.align == .afterSign then f.width.getD 0 - fixed else 0
  let grouped := if p.digits.isEmpty then [] else groupDigits grouping p.digits minWidth
  let padding := f.width.getD 0 - (fixed + grouped.length)
  let (l, s, r) := match f.align with
    | .left => (0, 0, padding)
    | .right => (padding, 0, 0)
    | .center => (padding / 2, 0, padding - padding / 2)
    | .afterSign => (0, padding, 0)
  String.ofList (f.fills l ++ sign ++ p.lead.toList ++ f.fills s ++ grouped ++
    (if p.point then ['.'] else []) ++ p.rest ++ f.fills r)

end ConnectedHome.Text
