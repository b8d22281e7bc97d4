import ConnectedHome.Text.Blank
import ConnectedHome.Text.CaseMap
/-!
# Letter case

Upper- and lower-casing follow the full Unicode case mappings (`Text.CaseMap`), including the
ones that change the length of the text (`ß` becomes `SS`, `ﬀ` becomes `FF`) and the title-case
digraphs (`ǅ` is upper-cased to `Ǆ` and lower-cased to `ǆ`).

Lower-casing has one rule that looks at the neighbours: a capital sigma that ends a word becomes
the final sigma `ς`, any other the sigma `σ` (`sigmaEndsWord`).  It ends a word when a cased
character comes before it and none after it, looking through case-ignorable characters on both
sides.

`isAsciiUpper` is the narrower class used where only ASCII capitals split words.
-/
namespace ConnectedHome.Text

/-- Whether a character is an ASCII capital. -/
def isAsciiUpper (c : Char) : Bool := 'A' ≤ c && c ≤ 'Z'

/-- Whether a character has a case. -/
def isCased (c : Char) : Bool := casedRanges.contains c.toNat

/-- Whether the case of a word looks through a character. -/
def isCaseIgnorable (c : Char) : Bool := caseIgnorableRanges.contains c.toNat

/-- The case of a character by a mapping given as runs and several-character exceptions. -/
def mapCase (runs : List CaseRun) (special : List (Nat × List Nat)) (c : Char) : List Char :=
  match special.lookup c.toNat with
  | some cs => cs.map Char.ofNat
  | none =>
    match runs.findSome? (·.partner? c.toNat) with
    | some n => [Char.ofNat n]
    | none => [c]

/-- The upper case of a character, possibly several characters. -/
def upperOf (c : Char) : List Char :=
  if 'a' ≤ c && c ≤ 'z' then [Char.ofNat (c.toNat - 32)]
  else if c.toNat < 0x80 then [c]
  else mapCase upperRuns upperSpecial c

/-- The lower case of a character out of context, possibly several characters. -/
def lowerOf (c : Char) : List Char :=
  if 'A' ≤ c && c ≤ 'Z' then [Char.ofNat (c.toNat + 32)]
  else if c.toNat < 0x80 then [c]
  else mapCase lowerRuns lowerSpecial c

/-- Whether a capital sigma with the characters `before` it (nearest first) and `after` it ends
a word. -/
def sigmaEndsWord (before after : List Char) : Bool :=
  let casedFirst (cs : List Char) : Bool :=
    match cs.dropWhile isCaseIgnorable with
    | c :: _ => isCased c
    | [] => false
  casedFirst before && !casedFirst after

/-- The capital sigma. -/
def capitalSigma : Char := Char.ofNat 0x3a3

/-- The lower case of the characters `rest`, which follow the characters `before` (nearest
first). -/
def lowerChars : List Char → List Char → List Char
  | _, [] => []
  | before, c :: rest =>
    let here := if c == capitalSigma then
        [if sigmaEndsWord before rest then Char.ofNat 0x3c2 else Char.ofNat 0x3c3]
      else lowerOf c
    here ++ lowerChars (c :: before) rest

/-- Text in upper case. -/
def upper (s : String) : String := String.ofList (s.toList.flatMap upperOf)

/-- Text in lower case. -/
def lower (s : String) : String := String.ofList (lowerChars [] s.toList)

/-- Text in ASCII lower case: other characters stay. -/
def asciiLower (s : String) : String := s.map Char.toLower

end ConnectedHome.Text
