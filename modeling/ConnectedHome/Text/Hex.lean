import ConnectedHome.Text.Blank
/-!
# Bytes written as hexadecimal text

`readHexBytes` reads a text of hexadecimal digit pairs, each pair one byte, high digit first;
ASCII blanks may stand between pairs but not inside one.  Digits are read in either case.  A text
that is not such a list names the position of the first character that cannot stand where it
does: a character beyond ASCII anywhere in the text wins over every other fault, and otherwise
it is the first character that is neither a digit nor a blank before a pair, or the character
(or missing character) that should complete a pair.

`upperHex` writes bytes as upper-case digit pairs.
-/
namespace ConnectedHome.Text

/-- The value of a hexadecimal digit of either case. -/
def hexValue? (c : Char) : Option Nat :=
  if '0' ≤ c && c ≤ '9' then some (c.toNat - '0'.toNat)
  else if 'a' ≤ c && c ≤ 'f' then some (c.toNat - 'a'.toNat + 10)
  else if 'A' ≤ c && c ≤ 'F' then some (c.toNat - 'A'.toNat + 10)
  else none

/-- Reads the digit pairs of `cs`, which starts at position `pos` of the text. -/
def readHexPairs : List Char → Nat → Except Nat (List UInt8)
  | [], _ => .ok []
  | c :: rest, pos =>
    if isAsciiBlank c then readHexPairs rest (pos + 1)
    else match hexValue? c with
      | none => .error pos
      | some hi =>
        match rest with
        | [] => .error (pos + 1)
        | d :: more =>
          match hexValue? d with
          | none => .error (pos + 1)
          | some lo => do
            let bytes ← readHexPairs more (pos + 2)
            return (16 * hi + lo).toUInt8 :: bytes

/-- Reads a text of hexadecimal digit pairs as bytes, or names the position of its fault. -/
def readHexBytes (s : String) : Except Nat (List UInt8) :=
  let cs := s.toList
  match cs.findIdx? (fun c => c.toNat ≥ 128) with
  | some i => .error i
  | none => readHexPairs cs 0

/-- An upper-case hexadecimal digit. -/
def upperHexDigit (n : Nat) : Char :=
  if n < 10 then Char.ofNat (48 + n) else Char.ofNat (55 + n)

/-- Bytes as upper-case hexadecimal digit pairs. -/
def upperHex (bytes : List UInt8) : String :=
  String.ofList (bytes.flatMap fun b => [upperHexDigit (b.toNat / 16), upperHexDigit (b.toNat % 16)])

end ConnectedHome.Text
