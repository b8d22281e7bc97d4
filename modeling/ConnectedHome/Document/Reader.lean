import ConnectedHome.Number.Numeral
/-!
# Reading documents from text

`readDocument` reads the text of a document.  Besides standard documents it accepts `NaN`,
`Infinity` and `-Infinity` as floats, and an object whose member is written twice keeps the
member's first place and its last value.  A numeral with a fraction or an exponent is a float,
any other numeral an integer of any size.

A refusal names what was expected and where, as a line, a column and the offset in characters
(`ReadError.message`): `Expecting value: line 1 column 1 (char 0)`.  The reader stops at the
first offending character, so the position says where the text stopped making sense.  Text
that starts with a byte order mark is refused before anything else.

Two limits keep reading cheap: an integer numeral has at most 4300 digits (`maxIntDigits`) and
containers nest at most 1000 deep (`maxNesting`).  Text beyond them is refused as too large,
not as malformed (`ReadError.isMalformed`).
-/
namespace ConnectedHome

open Number

/-- The deepest containers may nest; a document nested deeper is refused rather than read. -/
def maxNesting : Nat := 1000

/-- Why a text is no document. -/
inductive ReadError where
  /-- The text stops making sense at character offset `pos` of `doc`. -/
  | malformed (msg : String) (pos : Nat) (doc : List Char)
  /-- An integer numeral with `digits` digits, more than `maxIntDigits`. -/
  | tooManyDigits (digits : Nat)
  /-- Containers nested deeper than `maxNesting`; the innermost is an object or a list. -/
  | tooDeep (inObject : Bool)

/-- The message of a refusal.  A malformed text says `msg: line l column c (char p)`, lines
and columns counted from one. -/
def ReadError.message : ReadError → String
  | .malformed msg pos doc =>
    let before := doc.take pos
    let line := before.count '\n' + 1
    let lastBreak := (before.reverse.findIdx? (· == '\n')).map (fun i => pos - 1 - i)
    let col := match lastBreak with
      | some b => pos - b
      | none => pos + 1
    s!"{msg}: line {line} column {col} (char {pos})"
  | .tooManyDigits n => tooManyDigitsText n
  | .tooDeep inObject =>
    let container := if inObject then "object" else "array"
    s!"maximum recursion depth exceeded while decoding a JSON {container} from a unicode string"

/-- Whether the text is malformed, rather than too large to read. -/
def ReadError.isMalformed : ReadError → Bool
  | .malformed .. => true
  | _ => false

/-- A refusal as a fault: a malformed text or a numeral too long is a bad value, nesting too
deep exhausts the recursion. -/
def ReadError.toFault (e : ReadError) : Fault :=
  match e with
  | .tooDeep _ => .recursion e.message
  | _ => .badValue e.message

namespace Reader

/-- The state of a reading: the text and the offset reached. -/
abbrev Input := Array Char

/-- Whether a character is a blank between tokens. -/
def isGap (c : Char) : Bool := c == ' ' || c == '\t' || c == '\n' || c == '\r'

/-- The offset after the blanks at `i`. -/
def skipGap (s : Input) (i : Nat) : Nat :=
  let rec go (fuel i : Nat) : Nat :=
    match fuel with
    | 0 => i
    | fuel + 1 => if h : i < s.size then (if isGap s[i] then go fuel (i + 1) else i) else i
  go (s.size + 1) i

/-- The character at `i`, if any. -/
def at? (s : Input) (i : Nat) : Option Char := s[i]?

/-- Whether the text at `i` spells `w`. -/
def spells (s : Input) (i : Nat) (w : String) : Bool :=
  (w.toList.zipIdx).all (fun (c, k) => at? s (i + k) == some c)

/-- The value of a hexadecimal digit. -/
def hexValue? (c : Char) : Option Nat :=
  if '0' ≤ c && c ≤ '9' then some (c.toNat - 48)
  else if 'a' ≤ c && c ≤ 'f' then some (c.toNat - 87)
  else if 'A' ≤ c && c ≤ 'F' then some (c.toNat - 55)
  else none

/-- Four hexadecimal digits at `i`. -/
def hex4? (s : Input) (i : Nat) : Option Nat :=
  [0, 1, 2, 3].foldlM (fun acc k => do
    let c ← at? s (i + k)
    let d ← hexValue? c
    pure (acc * 16 + d)) 0

/-- A character from a code point; surrogates have no character and become the replacement
character. -/
def charOfCode (n : Nat) : Char :=
  if 0xd800 ≤ n && n ≤ 0xdfff then Char.ofNat 0xfffd else Char.ofNat n

/-- Reads the rest of a text whose opening quote is at `start - 1`; returns the text and the
offset after the closing quote. -/
def readText (s : Input) (start : Nat) : Except ReadError (String × Nat) :=
  let err (m : String) (p : Nat) : ReadError := .malformed m p s.toList
  let rec go (fuel : Nat) (i : Nat) (acc : List Char) : Except ReadError (String × Nat) :=
    match fuel with
    | 0 => .error (err "Unterminated string starting at" (start - 1))
    | fuel + 1 =>
      match at? s i with
      | none => .error (err "Unterminated string starting at" (start - 1))
      | some '"' => .ok (String.ofList acc.reverse, i + 1)
      | some '\\' =>
        match at? s (i + 1) with
        | none => .error (err "Unterminated string starting at" (start - 1))
        | some 'u' =>
          if i + 6 ≥ s.size then .error (err "Invalid \\uXXXX escape" (i + 1))
          else match hex4? s (i + 2) with
            | none => .error (err "Invalid \\uXXXX escape" (i + 1))
            | some c =>
              if 0xd800 ≤ c && c ≤ 0xdbff && i + 12 < s.size && at? s (i + 6) == some '\\' &&
                  at? s (i + 7) == some 'u' then
                match hex4? s (i + 8) with
                | none => .error (err "Invalid \\uXXXX escape" (i + 7))
                | some c2 =>
                  if 0xdc00 ≤ c2 && c2 ≤ 0xdfff then
                    go fuel (i + 12) (Char.ofNat (0x10000 + (c - 0xd800) * 0x400 + (c2 - 0xdc00)) :: acc)
                  else go fuel (i + 6) (charOfCode c :: acc)
              else go fuel (i + 6) (charOfCode c :: acc)
        | some e =>
          let mapped : Option Char := match e with
            | '"' => some '"' | '\\' => some '\\' | '/' => some '/'
            | 'b' => some (Char.ofNat 8) | 'f' => some (Char.ofNat 12)
            | 'n' => some '\n' | 'r' => some '\r' | 't' => some '\t'
            | _ => none
          match mapped with
          | some c => go fuel (i + 2) (c :: acc)
          | none => .error (err "Invalid \\escape" i)
      | some c =>
        if c.toNat < 0x20 then .error (err "Invalid control character at" i)
        else go fuel (i + 1) (c :: acc)
  go (s.size + 1) start []

/-- The digits from `i` on, and the offset after them. -/
def digitsFrom (s : Input) (i : Nat) : List Char × Nat :=
  let rec go (fuel i : Nat) (acc : List Char) : List Char × Nat :=
    match fuel with
    | 0 => (acc.reverse, i)
    | fuel + 1 =>
      match at? s i with
      | some c => if c.isDigit then go fuel (i + 1) (c :: acc) else (acc.reverse, i)
      | none => (acc.reverse, i)
  go (s.size + 1) i []

/-- Reads a numeral at `i`: `-?(0|[1-9][0-9]*)(\.[0-9]+)?([eE][-+]?[0-9]+)?`; none when no
numeral starts there.  A fraction or exponent that is not followed by digits is not part of
the numeral. -/
def readNumeral (s : Input) (i : Nat) : Except ReadError (Option (Value × Nat)) :=
  let neg := at? s i == some '-'
  let j := if neg then i + 1 else i
  let intPart : Option (List Char × Nat) :=
    match at? s j with
    | some '0' => some (['0'], j + 1)
    | some c => if c.isDigit then some (digitsFrom s j) else none
    | none => none
  match intPart with
  | none => .ok none
  | some (ip, k) =>
    let (fp, k) := match at? s k, at? s (k + 1) with
      | some '.', some d => if d.isDigit then digitsFrom s (k + 1) else ([], k)
      | _, _ => ([], k)
    let (ex, eneg, k, hasExp) := match at? s k with
      | some 'e' | some 'E' =>
        let (sg, k2) := match at? s (k + 1) with
          | some '-' => (true, k + 2)
          | some '+' => (false, k + 2)
          | _ => (false, k + 1)
        let (ed, k3) := digitsFrom s k2
        if ed.isEmpty then ([], false, k, false) else (ed, sg, k3, true)
      | _ => ([], false, k, false)
    if fp.isEmpty && !hasExp then
      if ip.length > maxIntDigits then .error (.tooManyDigits ip.length)
      else
        let mant := digitsValue ip
        .ok (some (.int (if neg then -(mant : Int) else mant), k))
    else
      let mant := digitsValue (ip ++ fp)
      let ev : Int := digitsValue ex
      let e : Int := (if eneg then -ev else ev) - fp.length
      .ok (some (.float (ofDecimal neg mant e), k))

mutual
/-- Reads one value at `i` (no blanks before it). -/
def readValue (s : Input) (fuel depth : Nat) (i : Nat) : Except ReadError (Value × Nat) :=
  let err (m : String) (p : Nat) : ReadError := .malformed m p s.toList
  match fuel with
  | 0 => .error (err "Expecting value" i)
  | fuel + 1 =>
    match at? s i with
    | none => .error (err "Expecting value" i)
    | some '"' => do
      let (t, j) ← readText s (i + 1)
      pure (.str t, j)
    | some '{' =>
      if depth ≥ maxNesting then .error (.tooDeep true)
      else
        -- the members of an object, or none
        let j := skipGap s (i + 1)
        match at? s j with
        | some '}' => .ok (.obj [], j + 1)
        | some '"' => readMembers s fuel (depth + 1) j []
        | _ => .error (err "Expecting property name enclosed in double quotes" j)
    | some '[' =>
      if depth ≥ maxNesting then .error (.tooDeep false)
      else
        let j := skipGap s (i + 1)
        match at? s j with
        | some ']' => .ok (.list [], j + 1)
        | _ => readElements s fuel (depth + 1) j []
    | some 'n' => if spells s i "null" then .ok (.null, i + 4) else .error (err "Expecting value" i)
    | some 't' => if spells s i "true" then .ok (.bool true, i + 4) else .error (err "Expecting value" i)
    | some 'f' => if spells s i "false" then .ok (.bool false, i + 5) else .error (err "Expecting value" i)
    | some 'N' => if spells s i "NaN" then .ok (.float notANumber, i + 3) else .error (err "Expecting value" i)
    | some 'I' => if spells s i "Infinity" then .ok (.float infinity, i + 8)
        else .error (err "Expecting value" i)
    | some c =>
      if c == '-' && spells s i "-Infinity" then .ok (.float (-infinity), i + 9)
      else match readNumeral s i with
        | .ok (some r) => .ok r
        | .ok none => .error (err "Expecting value" i)
        | .error e => .error e
termination_by structural fuel

/-- Reads members from the opening quote of a name at `i`. -/
def readMembers (s : Input) (fuel depth : Nat) (i : Nat) (acc : List (String × Value)) :
    Except ReadError (Value × Nat) :=
  let err (m : String) (p : Nat) : ReadError := .malformed m p s.toList
  match fuel with
  | 0 => .error (err "Expecting value" i)
  | fuel + 1 => do
    let (k, j) ← readText s (i + 1)
    let j := skipGap s j
    if at? s j != some ':' then throw (err "Expecting ':' delimiter" j)
    let j := skipGap s (j + 1)
    let (v, j) ← readValue s fuel depth j
    let acc := (k, v) :: acc
    let j := skipGap s j
    match at? s j with
    | some '}' => pure (.obj (Members.ofList acc.reverse), j + 1)
    | some ',' =>
      let j := skipGap s (j + 1)
      if at? s j == some '"' then readMembers s fuel depth j acc
      else throw (err "Expecting property name enclosed in double quotes" j)
    | _ => throw (err "Expecting ',' delimiter" j)
termination_by structural fuel

/-- Reads elements from `i`. -/
def readElements (s : Input) (fuel depth : Nat) (i : Nat) (acc : List Value) :
    Except ReadError (Value × Nat) :=
  let err (m : String) (p : Nat) : ReadError := .malformed m p s.toList
  match fuel with
  | 0 => .error (err "Expecting value" i)
  | fuel + 1 => do
    let (v, j) ← readValue s fuel depth i
    let acc := v :: acc
    let j := skipGap s j
    match at? s j with
    | some ']' => pure (.list acc.reverse, j + 1)
    | some ',' => readElements s fuel depth (skipGap s (j + 1)) acc
    | _ => throw (err "Expecting ',' delimiter" j)
termination_by structural fuel
end

end Reader

/-- Reads a document from its text. -/
def readDocument (text : String) : Except ReadError Value :=
  let s : Reader.Input := text.toList.toArray
  if s[0]? == some (Char.ofNat 0xfeff) then
    .error (.malformed "Unexpected UTF-8 BOM (decode using utf-8-sig)" 0 s.toList)
  else
    let i := Reader.skipGap s 0
    match Reader.readValue s (2 * s.size + 2) 0 i with
    | .error e => .error e
    | .ok (v, j) =>
      let j := Reader.skipGap s j
      if j != s.size then .error (.malformed "Extra data" j s.toList) else .ok v

end ConnectedHome
