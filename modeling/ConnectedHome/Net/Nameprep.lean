import ConnectedHome.Net.NameprepTable
import ConnectedHome.Net.Idna
import ConnectedHome.Document.Literal
/-!
# Host names beyond ASCII: IDNA 2003

The older rules for writing a host name in ASCII (RFC 3490 with the Nameprep profile of
RFC 3491), for names the rules of IDNA 2008 refuse.  The name is cut into labels at the four
full stops (an empty last label standing for a trailing dot; an empty name stays empty), and each label is written by
`toAsciiLabel`:

1. an ASCII label is kept as it is;
2. any other label is prepared (`nameprep`): the characters mapped to nothing are dropped, the
   rest case-folded, and the result put in NFKC of Unicode 3.2; a prohibited character fails
   the label, and so does a label with right-to-left characters that also holds left-to-right
   ones (bidi requirement 2) or does not begin and end with right-to-left ones (requirement 3);
3. a prepared label in ASCII is kept; any other must not start with `xn--` and is written as
   `xn--` and its Punycode.

Every label written must have between 1 and 63 characters.  A failure is the message of the
refusal, which the caller reports as an encoding error.
-/
namespace ConnectedHome.Net

open Text

/-- The message of a label that is empty or longer than 63 characters. -/
def labelLengthMessage : String := "label empty or too long"

/-- Prepares a label beyond ASCII; see the module notes. -/
def nameprep (label : List Char) : Except String (List Char) := do
  let mapped := (label.filter fun c => !mappedToNothing.contains c.toNat).flatMap fun c =>
    ((caseFolding.find? c.toNat).map (·.map Char.ofNat)).getD [c]
  let prepared := (nfkcLegacy (String.ofList mapped)).toList
  if let some c := prepared.find? fun c => prohibitedRanges.contains c.toNat then
    throw s!"Invalid character {quoteText (String.singleton c)}"
  let rightToLeft := prepared.map fun c => rightToLeftRanges.contains c.toNat
  if rightToLeft.any id then
    if prepared.any fun c => leftToRightRanges.contains c.toNat then
      throw "Violation of BIDI requirement 2"
    if !(rightToLeft.head?.getD false && rightToLeft.getLast?.getD false) then
      throw "Violation of BIDI requirement 3"
  return prepared

/-- Keeps a written label of 1 to 63 characters. -/
def checkLabelLength (label : List Char) : Except String (List Char) :=
  if 0 < label.length && label.length < 64 then .ok label else .error labelLengthMessage

/-- The ASCII form of one label; see the module notes. -/
def toAsciiLabel (label : List Char) : Except String (List Char) := do
  if label.all (·.toNat < 0x80) then return ← checkLabelLength label
  let prepared ← nameprep label
  if prepared.all (·.toNat < 0x80) then return ← checkLabelLength prepared
  if prepared.take 4 == "xn--".toList then throw "Label starts with ACE prefix"
  checkLabelLength ("xn--".toList ++ punycode prepared)

/-- The ASCII form of a host name under IDNA 2003, or the message of its refusal. -/
def nameprepEncode (host : String) : Except String String := do
  if host.isEmpty then return ""
  let labels := labelsOf host.toList
  let (labels, trailingDot) := if labels.getLast? == some [] then (labels.dropLast, true)
    else (labels, false)
  let encoded ← labels.mapM toAsciiLabel
  return String.ofList (List.intercalate ['.'] encoded) ++ (if trailingDot then "." else "")

end ConnectedHome.Net
