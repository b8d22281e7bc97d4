import ConnectedHome.Net.Percent
import ConnectedHome.Net.Address
import ConnectedHome.Net.Nameprep
import ConnectedHome.Text.Case
import ConnectedHome.Fault
/-!
# Addresses of web resources

An address is kept as five encoded parts: scheme, authority, path, query and fragment (`Url`).

**Reading** (`Url.read`) splits a text into the five parts, then encodes them:

* Leading controls and spaces are dropped, and tabs and line breaks removed everywhere.  A
  scheme is the text before the first `:` when it starts with an ASCII letter and holds only
  letters, digits and `+-.`; it is lower-cased.  An authority follows `//` and ends at the
  first `/`, `?` or `#`; the fragment follows the first `#`, the query the first `?` before it.
  An authority beyond ASCII must not hide a delimiter under NFKC (`checkNetloc`).
* The authority's host is lower-cased.  An IP address is written in its canonical form, an
  IPv6 address in brackets; a host with characters beyond ASCII is written in ASCII under the
  rules of internationalized names (`Net.Idna`, `Net.Nameprep`).  A port must be a decimal number up to 65535 and is kept
  as written, even when it is the scheme's default.  User and password are requoted.
* The path, the query and the fragment are requoted under their rules (`Net.Percent`), and the
  path of an address with an authority has its `.` and `..` segments resolved.

**Building** (`Url.build`) encodes a scheme, a host and a path given apart; the path is
quoted, not requoted.

**Queries**: `withQuery` replaces the query by encoded pairs; `updateQuery` reads the query's
pairs and sets the given ones in order: each replaces the next pair of its name or is added at
the end, and the pairs of those names left over are dropped (`updatePairs`).  A list value
stands for one pair per element (`queryValuePairs`).

**Writing** (`Url.text`) puts the parts together; an absolute address with an empty path and
a query or fragment is written with the path `/`.
-/
namespace ConnectedHome.Net

/-- The sub-delimiters every part keeps. -/
def subDelims : String := "!$'()*,"

/-- The sub-delimiters that mean something in a query. -/
def queryDelims : String := "+&=;"

/-- The rule of paths read from text: escapes of `/` and `+` stay escapes. -/
def pathRequote : PercentRule := { keeps := subDelims ++ queryDelims ++ "@:", protects := "/+" }

/-- The rule of paths given apart. -/
def pathQuote : PercentRule := { pathRequote with requote := false }

/-- The rule of queries read from text: escapes of `=+&;` stay escapes. -/
def queryRequote : PercentRule :=
  { keeps := subDelims ++ "?/:@", protects := queryDelims, spaceAsPlus := true }

/-- The rule of the names and values of query pairs. -/
def queryPartQuote : PercentRule :=
  { keeps := subDelims ++ "?/:@", spaceAsPlus := true, requote := false }

/-- The rule of fragments read from text. -/
def fragmentRequote : PercentRule := { keeps := subDelims ++ queryDelims ++ "?/:@" }

/-- The rule of user names and passwords read from text. -/
def userRequote : PercentRule := { keeps := subDelims ++ queryDelims }

/-- An address in five encoded parts. -/
structure Url where
  scheme : String := ""
  authority : String := ""
  path : String := ""
  query : String := ""
  fragment : String := ""
deriving BEq, Inhabited

/-- The parts of an address text before encoding. -/
structure UrlSplit where
  scheme : String := ""
  authority : String := ""
  path : String := ""
  query : String := ""
  fragment : String := ""

/-- The text before and after the first occurrence of `sep`, if there is one. -/
def splitFirst (s : String) (sep : Char) : Option (String × String) :=
  match s.toList.findIdx? (· == sep) with
  | some i => some (String.ofList (s.toList.take i), String.ofList (s.toList.drop (i + 1)))
  | none => none

/-- The text before and after the last occurrence of `sep`, if there is one. -/
def splitLast (s : String) (sep : Char) : Option (String × String) :=
  let cs := s.toList
  match (cs.reverse.findIdx? (· == sep)) with
  | some j =>
    let i := cs.length - 1 - j
    some (String.ofList (cs.take i), String.ofList (cs.drop (i + 1)))
  | none => none

/-- Whether a character may stand in a scheme. -/
def isSchemeChar (c : Char) : Bool := isAsciiAlnum c || c == '+' || c == '-' || c == '.'

/-- The fault of a malformed address. -/
def urlFault (msg : String) : Fault := .badValue msg

/-- Checks a host in brackets: a future address form `v…` or an IPv6 address. -/
def checkBracketedHost (host : String) : Except Fault Unit :=
  match host.toList with
  | 'v' :: rest =>
    let (digits, more) := rest.span (fun c => (Text.hexValue? c).isSome)
    match more with
    | '.' :: _ :: _ => if digits.isEmpty then throw (urlFault "IPvFuture address is invalid") else pure ()
    | _ => throw (urlFault "IPvFuture address is invalid")
  | _ =>
    match IpAddress.read? host with
    | some (.v6 _) => pure ()
    | some (.v4 _) => throw (urlFault "An IPv4 address cannot be in brackets")
    | none => throw (urlFault s!"{Value.literal (.str host)} does not appear to be an IPv4 or IPv6 address")

/-- Checks an authority with brackets. -/
def checkBracketedAuthority (authority : String) : Except Fault Unit := do
  let hostPort := match splitLast authority '@' with
    | some (_, h) => h
    | none => authority
  match splitFirst hostPort '[' with
  | some (before, bracketed) =>
    if !before.isEmpty then throw (urlFault "Invalid IPv6 URL")
    let (host, port) := (splitFirst bracketed ']').getD (bracketed, "")
    if !port.isEmpty && !port.startsWith ":" then throw (urlFault "Invalid IPv6 URL")
    checkBracketedHost host
  | none =>
    let host := ((splitFirst hostPort ':').map (fun (p : String × String) => p.1)).getD hostPort
    checkBracketedHost host

/-- Checks that an authority beyond ASCII does not hide a delimiter: with `@`, `:`, `#` and `?`
removed, its NFKC form must either be the same text or hold none of `/?#@:`, the characters
that would end or split an authority once the host is written in ASCII. -/
def checkNetloc (authority : String) : Except Fault Unit :=
  if authority.toList.all (·.toNat < 0x80) then pure ()
  else
    let n := String.ofList (authority.toList.filter fun c => !"@:#?".toList.contains c)
    let normal := Text.nfkc n
    if normal != n && normal.toList.any "/?#@:".toList.contains then
      throw (urlFault s!"netloc '{authority}' contains invalid characters under NFKC normalization")
    else pure ()

/-- Splits an address text into its parts. -/
def splitUrl (text : String) : Except Fault UrlSplit := do
  let cs := (text.toList.dropWhile (·.toNat ≤ 0x20)).filter (fun c => c != '\t' && c != '\r' && c != '\n')
  let (scheme, cs) := match cs.findIdx? (· == ':') with
    | some i =>
      match cs.head? with
      | some c0 =>
        if i > 0 && c0.toNat < 128 && c0.isAlpha && (cs.take i).all isSchemeChar then
          (Text.asciiLower (String.ofList (cs.take i)), cs.drop (i + 1))
        else ("", cs)
      | none => ("", cs)
    | none => ("", cs)
  let (authority, cs) ← match cs with
    | '/' :: '/' :: rest =>
      let (a, more) := rest.span (fun c => c != '/' && c != '?' && c != '#')
      let a := String.ofList a
      let opens := a.contains '['
      let closes := a.contains ']'
      if opens != closes then throw (urlFault "Invalid IPv6 URL")
      if opens then checkBracketedAuthority a
      pure (a, more)
    | _ => pure ("", cs)
  let rest := String.ofList cs
  let (rest, fragment) := (splitFirst rest '#').getD (rest, "")
  let (path, query) := (splitFirst rest '?').getD (rest, "")
  checkNetloc authority
  return { scheme, authority, path, query, fragment }

/-- The user name and password of an authority. -/
def userInfo (authority : String) : Option String × Option String :=
  match splitLast authority '@' with
  | some (info, _) =>
    match splitFirst info ':' with
    | some (u, p) => (some u, some p)
    | none => (some info, none)
  | none => (none, none)

/-- The host and port text of an authority; the host as written, brackets removed. -/
def hostInfo (authority : String) : String × Option String :=
  let hostPort := match splitLast authority '@' with
    | some (_, h) => h
    | none => authority
  let (host, port) := match splitFirst hostPort '[' with
    | some (_, bracketed) =>
      let (h, after) := (splitFirst bracketed ']').getD (bracketed, "")
      (h, ((splitFirst after ':').map (fun (p : String × String) => p.2)).getD "")
    | none => (splitFirst hostPort ':').getD (hostPort, "")
  (host, if port.isEmpty then none else some port)

/-- The host of an authority, lower-cased outside its zone; none when it is empty. -/
def hostName? (authority : String) : Option String :=
  let (host, _) := hostInfo authority
  if host.isEmpty then none
  else match splitFirst host '%' with
    | some (h, zone) => some (Text.lower h ++ "%" ++ zone)
    | none => some (Text.lower host)

/-- The port of an authority. -/
def portOf (authority : String) : Except Fault (Option Nat) :=
  match (hostInfo authority).2 with
  | none => .ok none
  | some p =>
    if p.toList.all Char.isDigit then
      let n := p.toList.foldl (fun n c => 10 * n + (c.toNat - 48)) 0
      if n ≤ 65535 then .ok (some n)
      else .error (urlFault "Invalid URL: port can't be converted to integer")
    else .error (urlFault "Invalid URL: port can't be converted to integer")

/-- The ASCII form of a host beyond ASCII: under IDNA 2008 with the UTS 46 mapping, or when
those rules refuse it, under IDNA 2003; a name both refuse is an encoding error. -/
def asciiHost (host : String) : Except Fault String :=
  match idnaEncode host with
  | some h => .ok h
  | none =>
    match nameprepEncode host with
    | .ok h => .ok h
    | .error msg => .error (.encoding "idna" msg)

/-- The encoded form of a host: an IP address in canonical form (IPv6 in brackets), another
host lower-cased and, beyond ASCII, in the ASCII form of internationalized names. -/
def encodeHost (host : String) : Except Fault String :=
  let (ip, zone) := match splitFirst host '%' with
    | some (i, z) => (i, some z)
    | none => (host, none)
  match IpAddress.read? ip with
  | some a =>
    let h := a.text ++ (zone.map ("%" ++ ·)).getD ""
    .ok (if a.isV6 then "[" ++ h ++ "]" else h)
  | none =>
    let h := Text.lower host
    if h.toList.all (·.toNat < 128) then .ok h else asciiHost h

/-- An encoded authority from its parts. -/
def makeAuthority (user password : Option String) (host : String) (port : Option Nat) :
    Except Fault String := do
  let hostPort := (← encodeHost host) ++ ((port.map fun p => ":" ++ toString p).getD "")
  let info := match password with
    | some p =>
      let u := match user with
        | some u => if u.isEmpty then "" else userRequote.encode u
        | none => ""
      some (u ++ ":" ++ userRequote.encode p)
    | none =>
      match user with
      | some u => if u.isEmpty then none else some (userRequote.encode u)
      | none => none
  return match info with
  | some i => i ++ "@" ++ hostPort
  | none => hostPort

/-- Resolves the `.` and `..` segments of a path, keeping a leading `/`. -/
def normalizePath (path : String) : String :=
  let (root, body) := if path.toList.head? == some '/' then ("/", (path.drop 1).toString) else ("", path)
  let segments := splitText body '/'
  let resolved := segments.foldl (fun acc seg =>
    if seg == ".." then acc.dropLast else if seg == "." then acc else acc ++ [seg]) []
  let resolved := match segments.getLast? with
    | some "." | some ".." => resolved ++ [""]
    | _ => resolved
  root ++ "/".intercalate resolved

/-- Checks that the path of an address with a host starts with `/`. -/
def checkAbsolutePath (host path : String) : Except Fault Unit :=
  if !host.isEmpty && !path.isEmpty && path.toList.head? != some '/' then
    throw (urlFault "Path in a URL with authority should start with a slash ('/') if set")
  else pure ()

/-- Reads and encodes an address text. -/
def Url.read (text : String) : Except Fault Url := do
  let s ← splitUrl text
  let (authority, host) ← if s.authority.isEmpty then pure ("", "") else do
    let some host := hostName? s.authority
      | throw (urlFault "Invalid URL: host is required for absolute urls")
    let port ← portOf s.authority
    let (user, password) := userInfo s.authority
    pure (← makeAuthority user password host port, host)
  let path := pathRequote.encode s.path
  let path := if authority.isEmpty then path else normalizePath path
  checkAbsolutePath host path
  return { scheme := s.scheme, authority, path, query := queryRequote.encode s.query,
           fragment := fragmentRequote.encode s.fragment }

/-- Builds an address from a scheme, a host and a path given apart. -/
def Url.build (scheme host path : String) : Except Fault Url := do
  let authority ← if host.isEmpty then pure "" else makeAuthority none none host none
  let path := pathQuote.encode path
  let path := if authority.isEmpty then path else normalizePath path
  checkAbsolutePath host path
  return { scheme, authority, path }

/-- The schemes whose addresses have an authority. -/
def authoritySchemes : List String :=
  ["", "ftp", "http", "gopher", "nntp", "telnet", "imap", "wais", "file", "mms", "https", "shttp",
   "snews", "prospero", "rtsp", "rtsps", "rtspu", "rsync", "svn", "svn+ssh", "sftp", "nfs", "git",
   "git+ssh", "ws", "wss"]

/-- Whether the address has a host. -/
def Url.isAbsolute (u : Url) : Bool := (hostName? u.authority).isSome

/-- The text of an address. -/
def Url.text (u : Url) : String :=
  let path := if u.path.isEmpty && u.isAbsolute && (!u.query.isEmpty || !u.fragment.isEmpty) then "/"
    else u.path
  let body :=
    if !u.authority.isEmpty ||
        (!u.scheme.isEmpty && authoritySchemes.contains u.scheme && !(['/', '/'].isPrefixOf path.toList)) then
      let p := if !path.isEmpty && path.toList.head? != some '/' then "/" ++ path else path
      "//" ++ u.authority ++ p
    else path
  let withScheme := if u.scheme.isEmpty then body else u.scheme ++ ":" ++ body
  let withQuery := if u.query.isEmpty then withScheme else withScheme ++ "?" ++ u.query
  if u.fragment.isEmpty then withQuery else withQuery ++ "#" ++ u.fragment

/-- The encoded text of query pairs. -/
def encodePairs (pairs : List (String × String)) : String :=
  "&".intercalate (pairs.map fun (k, v) => queryPartQuote.encode k ++ "=" ++ queryPartQuote.encode v)

/-- The pairs of a query: pieces between `&`, each a name and a value around the first `=`. -/
def queryPairs (query : String) : List (String × String) :=
  (query.splitOn "&").filterMap fun piece =>
    if piece.isEmpty then none
    else
      let (k, v) := (splitFirst piece '=').getD (piece, "")
      some (decodeQueryText k, decodeQueryText v)

/-- Sets one pair in `pairs`: it replaces the first pair of its name at or after position
`start`, or is added at the end; gives the pairs and the position after the one set. -/
def setPairFrom (pairs : List (String × String)) (start : Nat) (k v : String) :
    List (String × String) × Nat :=
  match ((pairs.drop start).findIdx? (·.1 == k)) with
  | some i => (pairs.set (start + i) (k, v), start + i + 1)
  | none => (pairs ++ [(k, v)], pairs.length + 1)

/-- Sets pairs in order: each replaces the next pair of its name, or is added at the end when
there is none left; the pairs of those names that were not replaced are dropped. -/
def updatePairs (pairs updates : List (String × String)) : List (String × String) :=
  let (pairs, used) := updates.foldl (fun (acc : List (String × String) × List (String × Nat)) (k, v) =>
    let (ps, used) := acc
    let (ps, next) := setPairFrom ps ((used.lookup k).getD 0) k v
    (ps, (k, next) :: used)) (pairs, [])
  (pairs.zipIdx.filter fun ((k, _), i) =>
    match used.lookup k with
    | some next => i < next
    | none => true).map (·.1)

/-- The text a query value stands for: texts as they are, whole numbers and finite floats as
their numerals; other values have none. -/
def queryValueText (v : Value) : Except Fault String :=
  match v with
  | .str s => .ok s
  | .int i => .ok (toString i)
  | .float x =>
    match Number.shape x with
    | .infinite _ => .error (.badValue "float('inf') is not supported")
    | .nan => .error (.badValue "float('nan') is not supported")
    | .finite _ => .ok (floatText x)
  | _ => .error (.badType
      s!"Invalid variable type: value should be str, int or float, got {v.literal} of type <class '{v.kind}'>")

/-- The address with its query replaced by encoded pairs. -/
def Url.withQuery (u : Url) (pairs : List (String × String)) : Url :=
  { u with query := encodePairs pairs }

/-- The pairs a query name and value stand for: one, or one for each element of a list. -/
def queryValuePairs (k : String) (v : Value) : Except Fault (List (String × String)) :=
  match v with
  | .list xs => xs.mapM fun x => do return (k, ← queryValueText x)
  | _ => do return [(k, ← queryValueText v)]

/-- The address with the given pairs set in its query (`updatePairs`). -/
def Url.updateQuery (u : Url) (pairs : List (String × String)) : Url :=
  { u with query := encodePairs (updatePairs (queryPairs u.query) pairs) }

end ConnectedHome.Net
