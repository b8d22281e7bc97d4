import ConnectedHome.Text.Hex
/-!
# IP addresses in host names

A host name may be an IP address; such a host is written in its canonical form.

* **IPv4**: four decimal parts separated by dots, each of one to three ASCII digits with no
  leading zero and a value up to 255.  The canonical form is the text itself.
* **IPv6**: eight groups of one to four hexadecimal digits separated by colons; one run of
  empty groups written `::` stands for as many zero groups as are missing, and the last two
  groups may be written as an IPv4 address.  The canonical form writes every group in
  lower-case hexadecimal without leading zeros and replaces the first longest run of two or
  more zero groups by `::`.
-/
namespace ConnectedHome.Net

/-- The pieces of `cs` between the occurrences of `sep`, empty pieces included. -/
def splitChars (sep : Char) : List Char → List (List Char)
  | [] => [[]]
  | c :: cs =>
    match splitChars sep cs with
    | [] => [[c]]
    | p :: ps => if c == sep then [] :: p :: ps else (c :: p) :: ps

/-- The pieces of a text between the occurrences of `sep`, empty pieces included. -/
def splitText (s : String) (sep : Char) : List String := (splitChars sep s.toList).map String.ofList

/-- An IP address: four octets or eight 16-bit groups. -/
inductive IpAddress where
  | v4 (octets : List Nat)
  | v6 (groups : List Nat)
deriving BEq, Inhabited

/-- Reads one decimal part of an IPv4 address. -/
def ipv4Part? (s : String) : Option Nat :=
  let cs := s.toList
  if cs.isEmpty || cs.length > 3 || !cs.all Char.isDigit then none
  else if cs.length > 1 && cs.head? == some '0' then none
  else
    let n := cs.foldl (fun n c => 10 * n + (c.toNat - 48)) 0
    if n > 255 then none else some n

/-- Reads an IPv4 address. -/
def ipv4? (s : String) : Option (List Nat) :=
  let parts := splitText s '.'
  if parts.length != 4 then none else parts.mapM ipv4Part?

/-- Reads one group of an IPv6 address. -/
def ipv6Group? (s : String) : Option Nat :=
  let cs := s.toList
  if cs.length > 4 then none
  else cs.foldlM (fun n c => (Text.hexValue? c).map (16 * n + ·)) 0

/-- The groups of an IPv6 address whose last part may be an IPv4 address. -/
def withIpv4Tail (parts : List String) : Option (List String) :=
  match parts.getLast? with
  | some last =>
    if last.toList.contains '.' then do
      let o ← ipv4? last
      let hi := 256 * o[0]! + o[1]!
      let lo := 256 * o[2]! + o[3]!
      return parts.dropLast ++ [String.ofList (Nat.toDigits 16 hi), String.ofList (Nat.toDigits 16 lo)]
    else some parts
  | none => some parts

/-- Reads an IPv6 address. -/
def ipv6? (s : String) : Option (List Nat) := do
  if s.isEmpty then none
  let parts := splitText s ':'
  if parts.length < 3 then none
  let parts ← withIpv4Tail parts
  if parts.length > 9 then none
  let n := parts.length
  let inner := (List.range n).filter (fun i => 0 < i && i + 1 < n && parts[i]!.isEmpty)
  match inner with
  | [] =>
    if n != 8 || parts[0]!.isEmpty || parts[n - 1]!.isEmpty then none
    parts.mapM ipv6Group?
  | [k] =>
    let hi := if parts[0]!.isEmpty then (if k == 1 then some 0 else none) else some k
    let lo := if parts[n - 1]!.isEmpty then (if n - k - 1 == 1 then some 0 else none)
      else some (n - k - 1)
    let hi ← hi
    let lo ← lo
    if hi + lo ≥ 8 then none
    let front ← (parts.take hi).mapM ipv6Group?
    let back ← (parts.drop (n - lo)).mapM ipv6Group?
    return front ++ List.replicate (8 - hi - lo) 0 ++ back
  | _ => none

/-- Reads an IP address: IPv4 first, then IPv6. -/
def IpAddress.read? (s : String) : Option IpAddress :=
  match ipv4? s with
  | some o => some (.v4 o)
  | none => (ipv6? s).map .v6

/-- The first longest run of zero groups, of length two or more: its start and length. -/
def longestZeroRun (gs : List Nat) : Option (Nat × Nat) :=
  let step (acc : Option (Nat × Nat) × Nat × Nat) (ig : Nat × Nat) :=
    let (best, start, len) := acc
    let (i, g) := ig
    if g == 0 then
      let start := if len == 0 then i else start
      let len := len + 1
      let better : Bool := match best with
        | some (_, l) => len > l
        | none => true
      ((if better then some (start, len) else best), start, len)
    else (best, 0, 0)
  match (gs.zipIdx.map (fun (g, i) => (i, g))).foldl step (none, 0, 0) with
  | (some (s, l), _, _) => if l ≥ 2 then some (s, l) else none
  | _ => none

/-- The lower-case hexadecimal text of a group. -/
def groupText (g : Nat) : String := String.ofList (Nat.toDigits 16 g)

/-- The canonical text of an address. -/
def IpAddress.text : IpAddress → String
  | .v4 o => ".".intercalate (o.map toString)
  | .v6 gs =>
    match longestZeroRun gs with
    | none => ":".intercalate (gs.map groupText)
    | some (s, l) =>
      ":".intercalate ((gs.take s).map groupText) ++ "::" ++
        ":".intercalate ((gs.drop (s + l)).map groupText)

/-- Whether an address is an IPv6 address. -/
def IpAddress.isV6 : IpAddress → Bool
  | .v6 _ => true
  | .v4 _ => false

end ConnectedHome.Net
