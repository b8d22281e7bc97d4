import ConnectedHome.Text.CodeRanges
/-!
# Compact tables of code points

Large tables of character data are written as text and read once: hexadecimal numbers, one
entry after another, separated by commas, with line breaks anywhere between them.

* `readCodeRanges` reads a set of characters: `a-b` is a range, `a` a single character;
* `readCodeValues` reads ranges with a number each (`CodeValues`): `a-b:v` or `a:v`;
* `readCodeMap` reads characters mapped to sequences (`CodeMap`): `a:x.y.z`.

The entries are sorted, so looking a character up is a binary search for the last entry that
starts at or below it (`lastAtMost`).
-/
namespace ConnectedHome.Text

/-- The value of a hexadecimal digit; other characters count as zero. -/
def hexDigitValue (c : Char) : Nat :=
  if '0' ≤ c && c ≤ '9' then c.toNat - 48
  else if 'a' ≤ c && c ≤ 'f' then c.toNat - 87
  else if 'A' ≤ c && c ≤ 'F' then c.toNat - 55
  else 0

/-- The number hexadecimal digits write. -/
def hexValue (cs : List Char) : Nat := cs.foldl (fun n c => 16 * n + hexDigitValue c) 0

/-- The index of the last element in `[lo, hi)` whose key is at most `n`, when the first one's
is; the search halves the interval each step, so 64 steps cover any array. -/
def lastAtMost {α : Type} (key : α → Nat) (xs : Array α) (n : Nat) : Nat → Nat → Nat → Nat
  | 0, lo, _ => lo
  | fuel + 1, lo, hi =>
    if lo + 1 ≥ hi then lo
    else
      let mid := (lo + hi) / 2
      match xs[mid]? with
      | some x => if key x ≤ n then lastAtMost key xs n fuel mid hi else lastAtMost key xs n fuel lo mid
      | none => lo

/-- The last element whose key is at most `n`. -/
def findAtMost? {α : Type} (key : α → Nat) (xs : Array α) (n : Nat) : Option α :=
  match xs[lastAtMost key xs n 64 0 xs.size]? with
  | some x => if key x ≤ n then some x else none
  | none => none

/-- The entries of a table text; blanks and line breaks between entries are ignored. -/
def tableEntries (s : String) : List String :=
  ((String.ofList (s.toList.filter (!·.isWhitespace))).splitOn ",").filter (!·.isEmpty)

/-- A range `a-b` or a single point `a`. -/
def readRange (s : String) : Nat × Nat :=
  match s.splitOn "-" with
  | [a, b] => (hexValue a.toList, hexValue b.toList)
  | _ => let a := hexValue s.toList; (a, a)

/-- Reads a set of characters. -/
def readCodeRanges (s : String) : CodeRanges :=
  (tableEntries s).toArray.map readRange

/-- Sorted, disjoint ranges of code points with a number each. -/
abbrev CodeValues := Array (Nat × Nat × Nat)

/-- Reads ranges with numbers. -/
def readCodeValues (s : String) : CodeValues :=
  (tableEntries s).toArray.map fun e =>
    match e.splitOn ":" with
    | [r, v] => let (a, b) := readRange r; (a, b, hexValue v.toList)
    | _ => (0, 0, 0)

/-- The number of the range that holds code point `n`. -/
def CodeValues.find? (t : CodeValues) (n : Nat) : Option Nat :=
  match findAtMost? (·.1) t n with
  | some (_, b, v) => if n ≤ b then some v else none
  | none => none

/-- Code points mapped to sequences of code points, sorted by the code point. -/
abbrev CodeMap := Array (Nat × List Nat)

/-- Reads code points mapped to sequences. -/
def readCodeMap (s : String) : CodeMap :=
  (tableEntries s).toArray.map fun e =>
    match e.splitOn ":" with
    | [k, v] => (hexValue k.toList, if v.isEmpty then [] else (v.splitOn ".").map (hexValue ·.toList))
    | _ => (0, [])

/-- The sequence code point `n` is mapped to. -/
def CodeMap.find? (t : CodeMap) (n : Nat) : Option (List Nat) :=
  match findAtMost? (·.1) t n with
  | some (k, v) => if k == n then some v else none
  | none => none

end ConnectedHome.Text
