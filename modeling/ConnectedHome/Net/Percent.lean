import ConnectedHome.Text.Hex
import ConnectedHome.Text.Utf8
/-!
# Percent-encoding

A part of an address keeps the characters its rule allows and writes every other character as
the `%XX` escapes of its UTF-8 bytes, in upper-case hexadecimal (`PercentRule.encode`).

A rule that *requotes* reads text that may already hold escapes: a `%` followed by two
hexadecimal digits stands for the byte they name.  The escape of an allowed ASCII character is
replaced by the character, the escape of a *protected* character (one whose escape means
something else than the character) stays an escape, and every other escape is written again in
upper case.  A `%` that starts no escape is itself escaped.

Query rules write a space as `+`.  The rules an address uses differ in the characters they
allow; `formRule` is the rule of form bodies, which allows only letters, digits and `_.-~`.

`decodeQueryText` reads an escaped query part back: `+` is a space, escapes are bytes, and the
bytes are read as UTF-8.
-/
namespace ConnectedHome.Net

/-- Whether a character is an ASCII letter or digit. -/
def isAsciiAlnum (c : Char) : Bool := c.isAlpha || c.isDigit

/-- The characters every part keeps: letters, digits and `-._~`. -/
def isUnreserved (c : Char) : Bool := isAsciiAlnum c || "-._~".toList.contains c

/-- A rule of percent-encoding. -/
structure PercentRule where
  /-- Characters kept as they are, besides the unreserved ones. -/
  keeps : String
  /-- Characters whose escapes are kept as escapes when requoting; they are kept as well. -/
  protects : String := ""
  /-- Whether a space is written `+`. -/
  spaceAsPlus : Bool := false
  /-- Whether escapes already in the text are read as escapes. -/
  requote : Bool := true

/-- Whether a rule keeps an ASCII character. -/
def PercentRule.allows (r : PercentRule) (c : Char) : Bool :=
  c.toNat < 128 && (isUnreserved c || r.keeps.toList.contains c || r.protects.toList.contains c)

/-- The escape of one byte. -/
def escapeByte (b : Nat) : List Char := ['%', Text.upperHexDigit (b / 16), Text.upperHexDigit (b % 16)]

/-- Encodes the characters `cs` under a rule. -/
def PercentRule.encodeChars (r : PercentRule) : List Char → List Char
  | [] => []
  | '%' :: d1 :: d2 :: rest =>
    match r.requote, Text.hexValue? d1, Text.hexValue? d2 with
    | true, some hi, some lo =>
      let b := 16 * hi + lo
      let c := Char.ofNat b
      let shown := if b < 128 && r.protects.toList.contains c then escapeByte b
        else if b < 128 && r.allows c then [c]
        else escapeByte b
      shown ++ r.encodeChars rest
    | _, _, _ => escapeByte 0x25 ++ r.encodeChars (d1 :: d2 :: rest)
  | c :: rest =>
    let shown :=
      if r.spaceAsPlus && c == ' ' then ['+']
      else if r.allows c then [c]
      else (Text.utf8Bytes (String.singleton c)).flatMap (fun b => escapeByte b.toNat)
    shown ++ r.encodeChars rest

/-- Encodes a text under a rule. -/
def PercentRule.encode (r : PercentRule) (s : String) : String :=
  String.ofList (r.encodeChars s.toList)

/-- The rule of form bodies: letters, digits and `_.-~` kept, a space written `+`. -/
def formRule : PercentRule := { keeps := "", spaceAsPlus := true, requote := false }

/-- A form body: `name=value` pairs joined by `&`, both sides encoded. -/
def formEncode (pairs : List (String × String)) : String :=
  "&".intercalate (pairs.map fun (k, v) => formRule.encode k ++ "=" ++ formRule.encode v)

/-- The bytes of an escaped text: escapes are bytes, other characters their UTF-8 bytes. -/
def unescapeBytes : List Char → List UInt8
  | [] => []
  | '%' :: d1 :: d2 :: rest =>
    match Text.hexValue? d1, Text.hexValue? d2 with
    | some hi, some lo => (16 * hi + lo).toUInt8 :: unescapeBytes rest
    | _, _ => 0x25 :: unescapeBytes (d1 :: d2 :: rest)
  | c :: rest => Text.utf8Bytes (String.singleton c) ++ unescapeBytes rest

/-- Reads an escaped query part: `+` is a space, escapes are UTF-8 bytes. -/
def decodeQueryText (s : String) : String :=
  Text.decodeUtf8 (unescapeBytes (s.toList.map fun c => if c == '+' then ' ' else c))

end ConnectedHome.Net
