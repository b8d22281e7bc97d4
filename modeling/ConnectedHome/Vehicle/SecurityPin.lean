import ConnectedHome.Text.Hex
import ConnectedHome.Digest.Sha512
import ConnectedHome.Fault
/-!
# The security PIN answer

Actions that need the owner's security PIN answer a challenge of the service: the PIN and the
challenge are both hexadecimal texts, and the answer is the SHA-512 digest of the PIN's bytes
followed by the challenge's bytes, as upper-case hexadecimal.  A PIN of odd length is read
with a leading zero.
-/
namespace ConnectedHome.Vehicle

/-- The fault of a text that is no list of hexadecimal digit pairs. -/
def hexFault (pos : Nat) : Fault :=
  .badValue s!"non-hexadecimal number found in fromhex() arg at position {pos}"

/-- Reads a hexadecimal text as bytes. -/
def hexBytes (s : String) : Except Fault (List UInt8) :=
  (Text.readHexBytes s).mapError hexFault

/-- The PIN as an even number of digits: with a leading zero when its length is odd. -/
def evenPin (pin : String) : String :=
  if pin.length % 2 == 0 then pin else "0" ++ pin

/-- The text of a challenge, which must be text to be read as hexadecimal. -/
def challengeText (v : Value) : Except Fault String :=
  match v with
  | .str s => .ok s
  | _ => .error (.badType s!"fromhex() argument must be str, not {v.kind}")

/-- The answer to a PIN challenge as the service sent it.  The PIN is read first, so a PIN that is
no hexadecimal text fails whatever the challenge is. -/
def pinHashOf (pin : String) (challenge : Value) : Except Fault String := do
  let p ← hexBytes (evenPin pin)
  let c ← hexBytes (← challengeText challenge)
  return Text.upperHex (Digest.sha512 (p ++ c))

/-- The answer to a PIN challenge given as text. -/
def pinHash (pin challenge : String) : Except Fault String := pinHashOf pin (.str challenge)

end ConnectedHome.Vehicle
