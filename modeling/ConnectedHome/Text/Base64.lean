import ConnectedHome.Fault
/-!
# Base64 text

`readBase64` reads base64 text leniently, the way most decoders accept what mail and logs carry:
characters outside the alphabet are skipped, and a padding `=` ends the data as soon as it
completes a quantum of at least two characters.  Padding that comes too early is skipped as
well.  A quantum left open at the end is an error: a single character cannot stand for any
byte, two or three need their padding.  Only ASCII text is read at all.
-/
namespace ConnectedHome.Text

/-- The value of a character of the base64 alphabet. -/
def base64Value? (c : Char) : Option Nat :=
  if 'A' ≤ c && c ≤ 'Z' then some (c.toNat - 'A'.toNat)
  else if 'a' ≤ c && c ≤ 'z' then some (c.toNat - 'a'.toNat + 26)
  else if '0' ≤ c && c ≤ '9' then some (c.toNat - '0'.toNat + 52)
  else if c == '+' then some 62
  else if c == '/' then some 63
  else none

/-- Where a reading of base64 text stands. -/
structure Base64Reading where
  /-- The bytes so far, last first. -/
  bytes : List UInt8 := []
  /-- The bits of the open quantum that are not yet a byte. -/
  carry : Nat := 0
  /-- How many characters of the open quantum were read. -/
  quad : Nat := 0
  /-- How many pads follow the open quantum's characters. -/
  pads : Nat := 0
  /-- Whether padding has ended the data. -/
  done : Bool := false

/-- Reads one character. -/
def Base64Reading.step (r : Base64Reading) (c : Char) : Base64Reading :=
  if r.done then r
  else if c == '=' then
    if 2 ≤ r.quad then
      if 4 ≤ r.quad + r.pads + 1 then { r with done := true } else { r with pads := r.pads + 1 }
    else r
  else match base64Value? c with
    | none => r
    | some v =>
      let r := { r with pads := 0 }
      match r.quad with
      | 0 => { r with carry := v, quad := 1 }
      | 1 => { r with bytes := UInt8.ofNat (r.carry * 4 + v / 16) :: r.bytes, carry := v % 16, quad := 2 }
      | 2 => { r with bytes := UInt8.ofNat (r.carry * 16 + v / 4) :: r.bytes, carry := v % 4, quad := 3 }
      | _ => { r with bytes := UInt8.ofNat (r.carry * 64 + v) :: r.bytes, carry := 0, quad := 0 }

/-- The bytes base64 text stands for. -/
def readBase64 (s : String) : Except Fault (List UInt8) :=
  if !s.toList.all (·.toNat < 128) then
    .error (.badValue "string argument should contain only ASCII characters")
  else
    let r := s.toList.foldl Base64Reading.step {}
    if r.done || r.quad == 0 then .ok r.bytes.reverse
    else if r.quad == 1 then
      .error (.badValue s!"Invalid base64-encoded string: number of data characters ({r.bytes.length / 3 * 4 + 1}) cannot be 1 more than a multiple of 4")
    else .error (.badValue "Incorrect padding")

end ConnectedHome.Text
