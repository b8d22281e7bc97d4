/-!
# UTF-8 bytes

`utf8Bytes` writes a text as UTF-8.  `decodeUtf8` reads bytes as UTF-8, replacing what is not
UTF-8 by U+FFFD: a byte that cannot start a character is replaced alone, and a character that
is cut short is replaced as one, up to the first byte that cannot continue it (the maximal
subparts of the Unicode standard).  `decodeUtf8?` reads only bytes that are UTF-8 throughout.
-/
namespace ConnectedHome.Text

/-- The UTF-8 bytes of a text. -/
def utf8Bytes (s : String) : List UInt8 := s.toUTF8.toList

/-- The replacement character. -/
def replacementChar : Char := '�'

/-- The bounds of the second byte after a lead byte, and the number of bytes that follow it;
none for a byte that cannot start a character of several bytes. -/
def leadShape (b : Nat) : Option (Nat × Nat × Nat) :=
  if 0xC2 ≤ b && b ≤ 0xDF then some (0x80, 0xBF, 1)
  else if b == 0xE0 then some (0xA0, 0xBF, 2)
  else if b == 0xED then some (0x80, 0x9F, 2)
  else if 0xE1 ≤ b && b ≤ 0xEF then some (0x80, 0xBF, 2)
  else if b == 0xF0 then some (0x90, 0xBF, 3)
  else if b == 0xF4 then some (0x80, 0x8F, 3)
  else if 0xF1 ≤ b && b ≤ 0xF3 then some (0x80, 0xBF, 3)
  else none

/-- The payload bits of a lead byte that has `more` bytes after it. -/
def leadBits (b more : Nat) : Nat :=
  if more == 1 then b % 32 else if more == 2 then b % 16 else b % 8

/-- Reads the `more` continuation bytes of a character whose value so far is `acc`; the first
one lies in `[lo, hi]`.  Gives the value and the rest, or the rest at the first byte that does
not continue the character. -/
def continueChar : List UInt8 → Nat → Nat → Nat → Nat → Except (List UInt8) (Nat × List UInt8)
  | bs, 0, acc, _, _ => .ok (acc, bs)
  | [], _ + 1, _, _, _ => .error []
  | b :: bs, more + 1, acc, lo, hi =>
    if lo ≤ b.toNat && b.toNat ≤ hi then continueChar bs more (64 * acc + b.toNat % 64) 0x80 0xBF
    else .error (b :: bs)

/-- Reads bytes as UTF-8, each ill-formed part replaced by U+FFFD. -/
def decodeUtf8 (bs : List UInt8) : String :=
  String.ofList (go bs.length bs [])
where
  /-- Reads the bytes with fuel that bounds their number; every step takes at least one. -/
  go : Nat → List UInt8 → List Char → List Char
    | 0, _, acc => acc.reverse
    | _ + 1, [], acc => acc.reverse
    | fuel + 1, b :: bs, acc =>
      if b.toNat < 0x80 then go fuel bs (Char.ofNat b.toNat :: acc)
      else match leadShape b.toNat with
        | none => go fuel bs (replacementChar :: acc)
        | some (lo, hi, more) =>
          match continueChar bs more (leadBits b.toNat more) lo hi with
          | .ok (v, rest) => go fuel rest (Char.ofNat v :: acc)
          | .error rest => go fuel rest (replacementChar :: acc)

/-- Reads bytes that are UTF-8 throughout; none when some part is not. -/
def decodeUtf8? (bs : List UInt8) : Option String :=
  (go bs.length bs []).map String.ofList
where
  /-- Reads the bytes with fuel that bounds their number; every step takes at least one. -/
  go : Nat → List UInt8 → List Char → Option (List Char)
    | 0, _, acc => some acc.reverse
    | _ + 1, [], acc => some acc.reverse
    | fuel + 1, b :: bs, acc =>
      if b.toNat < 0x80 then go fuel bs (Char.ofNat b.toNat :: acc)
      else match leadShape b.toNat with
        | none => none
        | some (lo, hi, more) =>
          match continueChar bs more (leadBits b.toNat more) lo hi with
          | .ok (v, rest) => go fuel rest (Char.ofNat v :: acc)
          | .error _ => none

end ConnectedHome.Text
