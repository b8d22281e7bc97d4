/-!
# Punycode

The Bootstring encoding of RFC 3492 with the Punycode parameters, which writes a label of any
characters with letters, digits and hyphens only.  The ASCII characters of the label come
first, followed by a hyphen when there are any; then every other character is coded, in order
of its code point, as the distance from the previous insertion, a variable-length number in
base 36 whose digit thresholds adapt to the distances already seen.

Decoding (`punydecode`) reverses it: the characters before the last hyphen are the basic ones,
and every number after it moves the insertion point on by its value, wrapping past the end of
the text to the next code point.

Each loop has a measure: `adaptLoop` divides its delta by 35, `digitsOf` divides its number by at
least 10, and the insertion loop walks the sorted list of the label's non-ASCII code points.
-/
namespace ConnectedHome.Net

/-- The character of a digit: `a`–`z` for 0–25, `0`–`9` for 26–35. -/
def punyDigit (d : Nat) : Char :=
  if d < 26 then Char.ofNat (0x61 + d) else Char.ofNat (0x30 + d - 26)

/-- The threshold of the digit at position `k` under a bias: between 1 and 26. -/
def punyThreshold (k bias : Nat) : Nat :=
  if k ≤ bias then 1 else if bias + 26 ≤ k then 26 else k - bias

theorem punyThreshold_pos (k bias : Nat) : 1 ≤ punyThreshold k bias := by
  unfold punyThreshold; split
  · omega
  · split <;> omega

theorem punyThreshold_le (k bias : Nat) : punyThreshold k bias ≤ 26 := by
  unfold punyThreshold; split
  · omega
  · split <;> omega

/-- Divides the delta by 35 until it is at most 455, counting 36 for every division. -/
def adaptLoop (delta k : Nat) : Nat × Nat :=
  if 455 < delta then adaptLoop (delta / 35) (k + 36) else (delta, k)
termination_by delta
decreasing_by omega

/-- The bias after a delta, for `points` characters coded so far. -/
def adaptBias (delta points : Nat) (first : Bool) : Nat :=
  let d := if first then delta / 700 else delta / 2
  let d := d + d / points
  let (d, k) := adaptLoop d 0
  k + 36 * d / (d + 38)

/-- The digits of a number, from position `k` on, under a bias. -/
def digitsOf (bias k q : Nat) : List Char :=
  let t := punyThreshold k bias
  if q < t then [punyDigit q]
  else punyDigit (t + (q - t) % (36 - t)) :: digitsOf bias (k + 36) ((q - t) / (36 - t))
termination_by q
decreasing_by
  have := punyThreshold_pos k bias
  have := punyThreshold_le k bias
  have : (q - punyThreshold k bias) / (36 - punyThreshold k bias) ≤ q - punyThreshold k bias :=
    Nat.div_le_self _ _
  omega

/-- The state of the insertion loop: the code so far, the delta, the bias and the number of
characters handled. -/
structure PunyState where
  out : List Char
  delta : Nat
  bias : Nat
  handled : Nat

/-- Passes one character of the label while inserting code point `m`. -/
def passChar (basics m : Nat) (st : PunyState) (c : Char) : PunyState :=
  if c.toNat < m then { st with delta := st.delta + 1 }
  else if c.toNat == m then
    { out := st.out ++ digitsOf st.bias 36 st.delta, delta := 0,
      bias := adaptBias st.delta (st.handled + 1) (st.handled == basics),
      handled := st.handled + 1 }
  else st

/-- Inserts the code points `ms`, in increasing order, the previous one being `n - 1`. -/
def insertAll (label : List Char) (basics : Nat) : List Nat → Nat → PunyState → PunyState
  | [], _, st => st
  | m :: rest, n, st =>
    let st := { st with delta := st.delta + (m - n) * (st.handled + 1) }
    let st := label.foldl (passChar basics m) st
    insertAll label basics rest (m + 1) { st with delta := st.delta + 1 }

/-- Inserts a number into an increasing list without repeats. -/
def insertIncreasing (x : Nat) : List Nat → List Nat
  | [] => [x]
  | y :: ys => if x < y then x :: y :: ys else if x == y then y :: ys else y :: insertIncreasing x ys

/-- The Punycode of a label, without the `xn--` prefix. -/
def punycode (label : List Char) : List Char :=
  let basic := label.filter (·.toNat < 0x80)
  let others := (label.filter (·.toNat ≥ 0x80)).foldr (fun c acc => insertIncreasing c.toNat acc) []
  let st := insertAll label basic.length others 128 ⟨[], 0, 72, basic.length⟩
  basic ++ (if basic.isEmpty then [] else ['-']) ++ st.out

/-- The value of a digit: `a`–`z` in either case for 0–25, `0`–`9` for 26–35. -/
def punyDigitValue? (c : Char) : Option Nat :=
  if 'a' ≤ c && c ≤ 'z' then some (c.toNat - 0x61)
  else if 'A' ≤ c && c ≤ 'Z' then some (c.toNat - 0x41)
  else if '0' ≤ c && c ≤ '9' then some (c.toNat - 0x30 + 26)
  else none

/-- Reads a variable-length number whose digit at position `k` weighs `w`, adding to `acc`;
gives the number and the rest, none when the code ends early or holds another character. -/
def readPunyNumber (bias : Nat) : Nat → Nat → Nat → List Char → Option (Nat × List Char)
  | _, _, _, [] => none
  | k, w, acc, c :: rest => do
    let d ← punyDigitValue? c
    let t := punyThreshold k bias
    let acc := acc + d * w
    if d < t then some (acc, rest) else readPunyNumber bias (k + 36) (w * (36 - t)) acc rest

/-- Inserts the coded characters into `out`: each number moves the insertion point on, past
the end wrapping to the next code point.  `fuel` bounds the numbers, each of which takes at
least one character. -/
def insertCoded : Nat → List Nat → Nat → Int → Nat → Bool → List Char → Option (List Nat)
  | _, out, _, _, _, _, [] => some out
  | 0, _, _, _, _, _, _ => none
  | fuel + 1, out, n, pos, bias, first, code => do
    let (delta, rest) ← readPunyNumber bias 36 1 0 code
    let pos := pos + delta + 1
    let len := out.length + 1
    let n := n + (pos / len).toNat
    if n > 0x10FFFF then none
    let spot := (pos % len).toNat
    let out := out.take spot ++ [n] ++ out.drop spot
    insertCoded fuel out n (spot : Int) (adaptBias delta out.length first) false rest

/-- The characters a Punycode text (without the `xn--` prefix) stands for; none for one that is
not Punycode. -/
def punydecode (code : List Char) : Option (List Char) :=
  let (base, coded) := match code.reverse.span (· != '-') with
    | (revCoded, _ :: revBase) => (revBase.reverse, revCoded.reverse)
    | (revCoded, []) => ([], revCoded.reverse)
  if !base.all (·.toNat < 0x80) then none
  else (insertCoded coded.length (base.map Char.toNat) 0x80 (-1) 72 true coded).map
    (·.map Char.ofNat)

end ConnectedHome.Net
