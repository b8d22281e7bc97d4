import ConnectedHome.Text.Subject
/-!
# Templates with named fields

A template is text with fields in braces, filled from named subjects (`fillTemplate`); `{{`
and `}}` stand for single braces.  A field is `{name}`, optionally followed by accessors, a
conversion and a format specification:

* the name is looked up among the named subjects; a name missing from them is a key fault.  An
  empty name or a decimal number (of any script) names a positional argument, and a template
  has none, so such a field is an index fault; a number past `2^63 - 1` is refused first;
* `.attr` asks for an attribute and `[key]` for an item (`Subject.getAttr`, `Subject.item`),
  the key being a position when it is a decimal number and a name otherwise.  Accessors are
  read and applied one at a time, so an accessor that fails hides any malformed one after it;
* `!s` shows the subject, `!r` writes its literal and `!a` its literal with every character
  beyond ASCII escaped;
* `:spec` lays the subject out (`Subject.format`, `Text.FormatSpec`); a specification may itself
  hold fields, which are filled first, two levels deep at most.

Faults come in the order of the template: everything before a malformed spot is filled before
the spot is found.
-/
namespace ConnectedHome.Text

/-- Scans a field name up to its end: the name, the character that ended it (`}`, `:` or
`!`; none at the end of the template) and the rest after that character.  Inside brackets
(`inside`) every character belongs to the name. -/
def scanName : List Char → Bool → Except Fault (List Char × Option Char × List Char)
  | [], _ => .ok ([], none, [])
  | c :: rest, inside =>
    if inside then do
      let (name, stop, after) ← scanName rest (c != ']')
      return (c :: name, stop, after)
    else if c == '{' then .error (.badValue "unexpected '\x7b' in field name")
    else if c == '}' || c == ':' || c == '!' then .ok ([], some c, rest)
    else do
      let (name, stop, after) ← scanName rest (c == '[')
      return (c :: name, stop, after)

/-- Scans a format spec up to the brace that closes the field, counting nested braces; gives
the spec and the rest after the closing brace. -/
def scanSpec : List Char → Nat → List Char → Except Fault (List Char × List Char)
  | [], _, _ => .error (.badValue "unmatched '\x7b' in format spec")
  | c :: rest, depth, acc =>
    if c == '{' then scanSpec rest (depth + 1) (c :: acc)
    else if c == '}' then
      if depth == 0 then .ok (acc.reverse, rest) else scanSpec rest (depth - 1) (c :: acc)
    else scanSpec rest depth (c :: acc)

/-- A field of a template: its name, conversion and format spec. -/
structure Field where
  name : List Char
  conversion : Option Char := none
  spec : List Char := []

/-- Reads the field that starts the characters (just after its `{`), and the rest after it. -/
def readField (cs : List Char) : Except Fault (Field × List Char) := do
  let (name, stop, after) ← scanName cs false
  match stop with
  | some '}' => return ({ name }, after)
  | some ':' =>
    let (spec, rest) ← scanSpec after 0 []
    return ({ name, spec }, rest)
  | some _ =>
    match after with
    | [] => throw (.badValue "end of string while looking for conversion specifier")
    | conv :: more =>
      match more with
      | '}' :: rest => return ({ name, conversion := some conv }, rest)
      | [] =>
        let (spec, rest) ← scanSpec [] 0 []
        return ({ name, conversion := some conv, spec }, rest)
      | ':' :: rest =>
        let (spec, rest) ← scanSpec rest 0 []
        return ({ name, conversion := some conv, spec }, rest)
      | _ => throw (.badValue "expected ':' after conversion specifier")
  | none => throw (.badValue "expected '\x7d' before end of string")

/-- The position a field's name or key gives when it is a decimal number of any script, none
when it is not one.  A number too large is refused as soon as it passes the limit. -/
def fieldIndex? (cs : List Char) : Except Fault (Option Nat) := do
  let (n, count, rest) ← readSpecNumber cs 0 0
  return if count > 0 && rest.isEmpty then some n else none

/-- The fault of a positional field: templates have no positional arguments. -/
def positionalFault (n : Nat) : Fault :=
  .badIndex s!"Replacement index {n} out of range for positional args tuple"

/-- Applies the accessors after a field's first name to a subject, one after the other;
`fuel` bounds their number, and every accessor takes at least one character. -/
def applyAccessors : Nat → List Char → Subject → Except Fault Subject
  | _, [], s => .ok s
  | 0, _, s => .ok s
  | fuel + 1, '.' :: rest, s => do
    let (name, more) := rest.span (fun c => c != '.' && c != '[')
    if name.isEmpty then throw (.badValue "Empty attribute in format string")
    applyAccessors fuel more (← s.getAttr (String.ofList name))
  | fuel + 1, '[' :: rest, s => do
    let (key, after) := rest.span (· != ']')
    match after with
    | [] => throw (.badValue "Missing ']' in format string")
    | _ :: more =>
      let index ← fieldIndex? key
      if key.isEmpty then throw (.badValue "Empty attribute in format string")
      let k : Subject.Key := match index with
        | some n => .index n
        | none => .name (String.ofList key)
      applyAccessors fuel more (← s.item k)
  | _, _, _ => .error (.badValue "Only '.' or '[' may follow ']' in format field specifier")

/-- Text with every character beyond ASCII escaped as `\\x`, `\\u` or `\\U` and its code. -/
def asciiEscape (s : String) : String :=
  String.join (s.toList.map fun c =>
    let n := c.toNat
    if n < 0x80 then String.singleton c
    else if n < 0x100 then "\\x" ++ hexDigits 2 n
    else if n < 0x10000 then "\\u" ++ hexDigits 4 n
    else "\\U" ++ hexDigits 8 n)

/-- Applies a conversion to a field's subject: `s` shows it, `r` writes its literal, `a` its
literal with every character beyond ASCII escaped. -/
def convertField (conversion : Option Char) (s : Subject) : Except Fault Subject :=
  match conversion with
  | none => .ok s
  | some 's' => .ok (.value (.str s.shown))
  | some 'r' => .ok (.value (.str s.literal))
  | some 'a' => .ok (.value (.str (asciiEscape s.literal)))
  | some c =>
    if 32 < c.toNat && c.toNat < 127 then .error (.badValue s!"Unknown conversion specifier {c}")
    else .error (.badValue s!"Unknown conversion specifier \\x{shortHex c.toNat}")

/-- The subject of a field from its name: the first part is looked up, the rest accessed. -/
def fieldSubject (lookup : String → Option Subject) (name : List Char) : Except Fault Subject := do
  let (first, accessors) := name.span (fun c => c != '.' && c != '[')
  let s ← if first.isEmpty then throw (positionalFault 0)
    else match ← fieldIndex? first with
      | some n => throw (positionalFault n)
      | none =>
        match lookup (String.ofList first) with
        | some s => pure s
        | none => throw (.missingKey (String.ofList first))
  applyAccessors (accessors.length + 1) accessors s

mutual
/-- Fills a template; `depth` bounds how deeply specs may hold fields. -/
def fillAt (lookup : String → Option Subject) : Nat → List Char → Except Fault String
  | 0, _ => .error (.badValue "Max string recursion exceeded")
  | depth + 1, cs => fillChars lookup depth (cs.length + 1) cs []

/-- Fills the characters `cs`, with `acc` the text so far reversed; `fuel` bounds the number
of steps, each of which takes at least one character. -/
def fillChars (lookup : String → Option Subject) (depth : Nat) :
    Nat → List Char → List Char → Except Fault String
  | 0, _, acc => .ok (String.ofList acc.reverse)
  | _, [], acc => .ok (String.ofList acc.reverse)
  | fuel + 1, '{' :: '{' :: rest, acc => fillChars lookup depth fuel rest ('{' :: acc)
  | fuel + 1, '}' :: '}' :: rest, acc => fillChars lookup depth fuel rest ('}' :: acc)
  | _, ['{'], _ => .error (.badValue "Single '\x7b' encountered in format string")
  | _, '}' :: _, _ => .error (.badValue "Single '\x7d' encountered in format string")
  | fuel + 1, '{' :: rest, acc => do
    let (field, after) ← readField rest
    let s ← fieldSubject lookup field.name
    let s ← convertField field.conversion s
    let spec ← if field.spec.contains '{' then fillAt lookup depth field.spec
      else pure (String.ofList field.spec)
    let text ← s.format spec.toList
    fillChars lookup depth fuel after (text.toList.reverse ++ acc)
  | fuel + 1, c :: rest, acc => fillChars lookup depth fuel rest (c :: acc)
end

/-- Fills a template from named subjects. -/
def fillTemplate (template : String) (lookup : String → Option Subject) : Except Fault String :=
  fillAt lookup 2 template.toList

end ConnectedHome.Text
