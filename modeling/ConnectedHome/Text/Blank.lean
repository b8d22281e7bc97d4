/-!
# Blanks and decimal digits beyond ASCII

Reading numbers and trimming text accept more than ASCII.  A *blank* is a character of the
Unicode classes of separators together with the ASCII controls tab, line feed, vertical tab,
form feed, carriage return and the four information separators `0x1c`–`0x1f`; a *decimal digit*
is any character of the Unicode class of decimal numbers, whose value is its distance from the
zero of its block (every such block holds ten consecutive digits).

`Blank.isBlank` and `Blank.digitValue?` are tables of those classes.  ASCII space and
`'0'`–`'9'` are in them, so code that trims or reads numbers only needs these two functions.
-/
namespace ConnectedHome.Text

/-- Whether a character is a blank. -/
def isBlank (c : Char) : Bool :=
  let n := c.toNat
  (9 ≤ n && n ≤ 13) || (28 ≤ n && n ≤ 32) || n == 0x85 || n == 0xa0 || n == 0x1680 ||
  (0x2000 ≤ n && n ≤ 0x200a) || n == 0x2028 || n == 0x2029 || n == 0x202f || n == 0x205f ||
  n == 0x3000

/-- Whether a character is an ASCII blank: space, tab, line feed, vertical tab, form feed or
carriage return. -/
def isAsciiBlank (c : Char) : Bool :=
  c == ' ' || c == '\t' || c == '\n' || c == '\r' || c.toNat == 11 || c.toNat == 12

/-- The zeros of the blocks of ten decimal digits. -/
def digitZeros : List Nat :=
  [0x30, 0x660, 0x6f0, 0x7c0, 0x966, 0x9e6, 0xa66, 0xae6, 0xb66, 0xbe6, 0xc66, 0xce6, 0xd66,
   0xde6, 0xe50, 0xed0, 0xf20, 0x1040, 0x1090, 0x17e0, 0x1810, 0x1946, 0x19d0, 0x1a80, 0x1a90,
   0x1b50, 0x1bb0, 0x1c40, 0x1c50, 0xa620, 0xa8d0, 0xa900, 0xa9d0, 0xa9f0, 0xaa50, 0xabf0,
   0xff10, 0x104a0, 0x10d30, 0x11066, 0x110f0, 0x11136, 0x111d0, 0x112f0, 0x11450, 0x114d0,
   0x11650, 0x116c0, 0x11730, 0x118e0, 0x11950, 0x11c50, 0x11d50, 0x11da0, 0x11f50, 0x16a60,
   0x16ac0, 0x16b50, 0x1d7ce, 0x1d7d8, 0x1d7e2, 0x1d7ec, 0x1d7f6, 0x1e140, 0x1e2f0, 0x1e4f0,
   0x1e950, 0x1fbf0]

/-- The value of a decimal digit of any script. -/
def digitValue? (c : Char) : Option Nat :=
  let n := c.toNat
  match digitZeros.find? (fun z => z ≤ n && n < z + 10) with
  | some z => some (n - z)
  | none => none

/-- The character as an ASCII digit when it is a decimal digit of any script, as a space when it
is a blank, and unchanged otherwise: the form in which numbers are read. -/
def asciiDigitsAndBlanks (c : Char) : Char :=
  match digitValue? c with
  | some d => Char.ofNat (48 + d)
  | none => if c.toNat ≥ 128 && isBlank c then ' ' else c

/-- Text without leading and trailing blanks. -/
def trimBlanks (s : String) : String :=
  String.ofList ((s.toList.dropWhile isBlank).reverse.dropWhile isBlank).reverse

/-- Text without leading and trailing ASCII blanks. -/
def trimAsciiBlanks (s : String) : String :=
  String.ofList ((s.toList.dropWhile isAsciiBlank).reverse.dropWhile isAsciiBlank).reverse

end ConnectedHome.Text
