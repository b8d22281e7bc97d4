import ConnectedHome.Document.Literal
/-!
# Writing documents as text

Two layouts of a document are written, each fixed by one record (`TextLayout`):

* `TextLayout.request` is how request bodies are written: `", "` between elements, `": "` after
  names, every character beyond ASCII as a `\uXXXX` escape (two escapes for characters beyond the
  first plane), and `NaN`, `Infinity`, `-Infinity` for the floats that have no numeral.
* `TextLayout.answer` is how the hub's answers are written: characters stay as they are, and a
  float without numeral is written as the object `{"$float": "nan"}` (or `"inf"`, `"-inf"`).

Both write floats with the shortest decimal that reads back, laid out as in `floatText`, and
keep the members of objects in their order.
-/
namespace ConnectedHome

open Number

/-- The decisions of a text layout of documents. -/
structure TextLayout where
  /-- Between the elements of a list and the members of an object. -/
  itemSep : String
  /-- Between a member's name and its value. -/
  nameSep : String
  /-- Whether characters beyond ASCII are escaped. -/
  asciiOnly : Bool
  /-- Whether floats without numeral are written as `{"$float": …}` objects. -/
  taggedSpecials : Bool

/-- The layout of request bodies. -/
def TextLayout.request : TextLayout := ⟨", ", ": ", true, false⟩

/-- The layout of answers. -/
def TextLayout.answer : TextLayout := ⟨", ", ": ", false, true⟩

/-- The escape of one character inside a quoted text. -/
def TextLayout.escapeChar (l : TextLayout) (c : Char) : String :=
  let n := c.toNat
  if c == '"' then "\\\""
  else if c == '\\' then "\\\\"
  else if c == '\n' then "\\n"
  else if c == '\r' then "\\r"
  else if c == '\t' then "\\t"
  else if n == 8 then "\\b"
  else if n == 12 then "\\f"
  else if n < 0x20 then "\\u" ++ hexDigits 4 n
  else if n < 0x7f || !l.asciiOnly then String.singleton c
  else if n < 0x10000 then "\\u" ++ hexDigits 4 n
  else
    let m := n - 0x10000
    "\\u" ++ hexDigits 4 (0xd800 + m / 0x400) ++ "\\u" ++ hexDigits 4 (0xdc00 + m % 0x400)

/-- A text in double quotes. -/
def TextLayout.quote (l : TextLayout) (s : String) : String :=
  "\"" ++ String.join (s.toList.map l.escapeChar) ++ "\""

/-- A float as a numeral, or in the layout's form for the floats without one. -/
def TextLayout.float (l : TextLayout) (x : Float) : String :=
  match shape x with
  | .finite _ => floatText x
  | .infinite neg =>
    if l.taggedSpecials then (if neg then "\x7b\"$float\": \"-inf\"\x7d" else "\x7b\"$float\": \"inf\"\x7d")
    else if neg then "-Infinity" else "Infinity"
  | .nan => if l.taggedSpecials then "\x7b\"$float\": \"nan\"\x7d" else "NaN"

mutual
/-- The text of a document in a layout. -/
def TextLayout.write (l : TextLayout) : Value → String
  | .null => "null"
  | .bool b => if b then "true" else "false"
  | .int i => toString i
  | .float x => l.float x
  | .str s => l.quote s
  | .list xs => "[" ++ l.itemSep.intercalate (l.writeList xs) ++ "]"
  | .obj ms => "\x7b" ++ l.itemSep.intercalate (l.writeMembers ms) ++ "\x7d"

/-- The texts of the elements of a list. -/
def TextLayout.writeList (l : TextLayout) : List Value → List String
  | [] => []
  | v :: vs => l.write v :: l.writeList vs

/-- The texts of the members of an object. -/
def TextLayout.writeMembers (l : TextLayout) : List (String × Value) → List String
  | [] => []
  | (k, v) :: ms => (l.quote k ++ l.nameSep ++ l.write v) :: l.writeMembers ms
end

/-- The text of a request body. -/
def Value.toRequestText (v : Value) : String := TextLayout.request.write v

/-- The text of an answer. -/
def Value.toValueText (v : Value) : String := TextLayout.answer.write v

end ConnectedHome
