import ConnectedHome.Net.IdnaTable
import ConnectedHome.Net.Punycode
import ConnectedHome.Text.Normalization
import ConnectedHome.Text.Bidi
/-!
# Host names beyond ASCII: IDNA 2008 with the UTS 46 mapping

A host name with characters beyond ASCII is written in ASCII for the network by
`idnaEncode`:

1. every character is mapped by the UTS 46 table (`uts46Map`): valid characters and deviations
   stay, mapped ones are replaced, ignored ones dropped, and a disallowed one fails the name;
   the result is put in NFC;
2. the name is cut into labels at `.`, `。`, `．` and `｡`; an empty last label stands for a
   trailing dot, any other empty label fails;
3. an ASCII label is kept, once it passes the checks (decoded first when it starts with
   `xn--`); any other label must pass the checks of IDNA 2008 (`labelValid`) and is written as
   `xn--` and its Punycode.  A label has at most 63 characters;
4. the name has at most 253 characters, 254 with the trailing dot, and its input at most 1024.

The checks of a label (`labelValid`): it is not empty, in NFC, has no hyphens in its third and
fourth places and none at its ends, does not begin with a mark, holds only characters valid
anywhere or valid in their context (`joinerValid`, `contextValid`), and keeps the bidi rule
of RFC 5893 when it holds right-to-left characters (`bidiValid`).

A name that fails is not encoded here; the caller turns to the rules of IDNA 2003.
-/
namespace ConnectedHome.Net

open Text

/-- The longest input the encoding takes. -/
def idnaInputLimit : Nat := 1024

/-- The row of the mapping table that holds a character. -/
def mappingRowOf (c : Nat) : MappingRow := (findAtMost? (·.start) mappingRows c).getD default

/-- The characters a character is mapped to; none when it is disallowed. -/
def uts46Char (c : Char) : Option (List Char) :=
  let r := mappingRowOf c.toNat
  match r.status with
  | 'V' | 'D' => some [c]
  | 'M' => some (r.replacement.map Char.ofNat)
  | 'I' => some []
  | _ => none

/-- A name mapped by the UTS 46 table and put in NFC; none when it holds a disallowed
character or is too long. -/
def uts46Map (s : String) : Option String :=
  if s.length > idnaInputLimit then none
  else (s.toList.mapM uts46Char).map fun css => nfc (String.ofList css.flatten)

/-- Whether a character is one of the four full stops that separate labels. -/
def isLabelDot (c : Char) : Bool :=
  c == '.' || c.toNat == 0x3002 || c.toNat == 0xFF0E || c.toNat == 0xFF61

/-- The labels of a name, cut at every full stop. -/
def labelsOf (cs : List Char) : List (List Char) := cs.splitOnP isLabelDot

/-- The joining type of a character, if it has one. -/
def joiningType? (c : Char) : Option Char :=
  (joiningTypes.find? c.toNat).bind (joiningTypeNames[·]?)

/-- The class of combining marks that end a cluster (virama). -/
def viramaClass : Nat := 9

/-- Whether the joiner at position `pos` of a label is in its context: after a virama, or, for
the zero-width non-joiner, between a character that joins to the right and one that joins to
the left, looking through transparent characters. -/
def joinerValid (label : List Char) (pos : Nat) : Bool :=
  let c := (label[pos]?).getD ' '
  let afterVirama := match label[pos - 1]? with
    | some p => pos > 0 && combiningClass p.toNat == viramaClass
    | none => false
  let firstSolid (cs : List Char) : Option Char :=
    (cs.dropWhile fun x => joiningType? x == some 'T').head?.bind joiningType?
  if c.toNat == 0x200C then
    afterVirama ||
      ((firstSolid (label.take pos).reverse).any (fun t => t == 'L' || t == 'D') &&
       (firstSolid (label.drop (pos + 1))).any (fun t => t == 'R' || t == 'D'))
  else if c.toNat == 0x200D then afterVirama
  else false

/-- Whether the character at position `pos` of a label, valid only in context, is in its
context. -/
def contextValid (label : List Char) (pos : Nat) : Bool :=
  let n := ((label[pos]?).getD ' ').toNat
  let before := label[pos - 1]?
  let after := label[pos + 1]?
  if n == 0xB7 then
    0 < pos && before == some 'l' && after == some 'l'
  else if n == 0x375 then
    match after with
    | some a => label.length > 1 && greekRanges.contains a.toNat
    | none => false
  else if n == 0x5F3 || n == 0x5F4 then
    match before with
    | some b => pos > 0 && hebrewRanges.contains b.toNat
    | none => false
  else if n == 0x30FB then
    label.any fun x => x.toNat != 0x30FB &&
      (hiraganaRanges.contains x.toNat || katakanaRanges.contains x.toNat || hanRanges.contains x.toNat)
  else if 0x660 ≤ n && n ≤ 0x669 then !label.any fun x => 0x6F0 ≤ x.toNat && x.toNat ≤ 0x6F9
  else if 0x6F0 ≤ n && n ≤ 0x6F9 then !label.any fun x => 0x660 ≤ x.toNat && x.toNat ≤ 0x669
  else false

/-- The state of the bidi rule's walk: whether the label so far ends well and the kind of
number it holds. -/
structure BidiWalk where
  ok : Bool := true
  endsWell : Bool := false
  numbers : Option String := none

/-- Whether a label keeps the bidi rule: a label with right-to-left characters begins with a
right-to-left or a left-to-right letter, holds only the classes its direction allows, ends
with a letter or number of its direction (marks aside) and, right to left, does not mix the
two kinds of numbers.  Every character must have a class. -/
def bidiValid (label : List Char) : Bool :=
  let classes := label.map fun c => bidiClass? c.toNat
  if classes.any (·.isNone) then false
  else
    let cs := classes.filterMap id
    if !cs.any (fun d => d == "R" || d == "AL" || d == "AN") then true
    else
      let rtl? : Option Bool := match cs.head? with
        | some "R" | some "AL" => some true
        | some "L" => some false
        | _ => none
      match rtl? with
      | none => false
      | some rtl =>
        let allowed := if rtl then ["R", "AL", "AN", "EN", "ES", "CS", "ET", "ON", "BN", "NSM"]
          else ["L", "EN", "ES", "CS", "ET", "ON", "BN", "NSM"]
        let ending := if rtl then ["R", "AL", "EN", "AN"] else ["L", "EN"]
        let w := cs.foldl (fun (w : BidiWalk) d =>
          let ok := w.ok && allowed.contains d
          let endsWell := if ending.contains d then true else if d == "NSM" then w.endsWell else false
          let (ok, numbers) :=
            if rtl && (d == "AN" || d == "EN") then
              match w.numbers with
              | none => (ok, some d)
              | some k => (ok && k == d, some k)
            else (ok, w.numbers)
          { ok, endsWell, numbers }) {}
        w.ok && w.endsWell

/-- Whether a label passes the checks of IDNA 2008; see the module notes. -/
def labelValid (label : List Char) : Bool :=
  let s := String.ofList label
  !label.isEmpty && label.length ≤ 254 && nfc s == s &&
  !(label.drop 2).take 2 == ['-', '-'] && label.head? != some '-' && label.getLast? != some '-' &&
  !(label.head?.any fun c => markRanges.contains c.toNat) &&
  (label.zipIdx.all fun (c, pos) =>
    validRanges.contains c.toNat ||
    (joinerRanges.contains c.toNat && joinerValid label pos) ||
    (!joinerRanges.contains c.toNat && contextRanges.contains c.toNat && contextValid label pos)) &&
  bidiValid label

/-- Whether an ASCII label passes: decoded and checked when it starts with `xn--`, checked as it
is otherwise. -/
def asciiLabelValid (label : List Char) : Bool :=
  let lower := label.map Char.toLower
  if lower.take 4 == "xn--".toList then
    let code := lower.drop 4
    !code.isEmpty && code.getLast? != some '-' &&
      match punydecode code with
      | some u => labelValid u
      | none => false
  else labelValid lower

/-- The ASCII form of one label; none when it fails. -/
def aLabel (label : List Char) : Option (List Char) :=
  if label.length > idnaInputLimit then none
  else if label.all (·.toNat < 0x80) then
    if asciiLabelValid label && label.length ≤ 63 then some label else none
  else if labelValid label then
    let a := "xn--".toList ++ punycode label
    if a.length ≤ 63 then some a else none
  else none

/-- The ASCII form of a host name under IDNA 2008 and UTS 46; none when it fails. -/
def idnaEncode (host : String) : Option String := do
  let mapped ← uts46Map host
  if mapped.length > 254 then none
  let labels := labelsOf mapped.toList
  if labels == [[]] then none
  let (labels, trailingDot) := if labels.getLast? == some [] then (labels.dropLast, true)
    else (labels, false)
  let encoded ← labels.mapM aLabel
  let name := String.ofList (List.intercalate ['.'] (encoded ++ (if trailingDot then [[]] else [])))
  if name.length > (if trailingDot then 254 else 253) then none
  return name

end ConnectedHome.Net
