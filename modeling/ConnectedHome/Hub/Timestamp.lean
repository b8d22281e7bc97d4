import ConnectedHome.Fault
import ConnectedHome.Text.Blank
import ConnectedHome.Hub.Calendar
/-!
# Timestamps

The hub reads the times a service sends as timestamps (`readTimestamp`).  Two grammars are
tried in turn:

* the **strict** grammar of ISO 8601 (`readStrict`): a four-digit year, then a date written
  either *extended*, with hyphens (`-MM`, `-MM-DD`, the day of the year `-DDD`, the week date
  `-Www` or `-Www-D`), or *basic*, without them (`MMDD`, `DDD`, `Www`, `WwwD`); after
  `T`, `t` or a space a time of hours, minutes and seconds, seconds with a fraction after `.` or
  `,`; then `Z`, `z` or an offset `±hh`, `±hh:mm`, `±hhmm` of less than a day.  A time with
  minutes is written the way the date is: with colons after an extended date, without after a
  basic one.  `24:00:00` is midnight at the end of the day.  Only ASCII digits count, and every
  field must be in its range;
* the **loose** grammar (`readLoose`): `YYYY-M-D`, `T` or a space, `h:m`, optionally `:s` and a
  fraction of up to six digits (six more are ignored), then `Z` or an offset `±hh`, `±hh:mm`,
  `±hhmm`.  Digits of any script count.  A text that fits it is a timestamp only when every
  field is in its range; a field out of range is a fault that names it.

A text neither grammar reads is no timestamp.  A timestamp is written as `YYYY-MM-DDTHH:MM:SS`,
with the microseconds after a dot when there are any and the offset as `±HH:MM` when there is
one (`Timestamp.isoText`).
-/
namespace ConnectedHome.Hub

/-- A calendar date and time of day, with an offset from UTC in minutes when it has one. -/
structure Timestamp where
  year : Nat
  month : Nat := 1
  day : Nat := 1
  hour : Nat := 0
  minute : Nat := 0
  second : Nat := 0
  micro : Nat := 0
  offset : Option Int := none
deriving Inhabited, BEq

open Calendar (daysInMonth)

/-- The first field of a timestamp out of its range, as the fault that names it. -/
def Timestamp.rangeFault (t : Timestamp) : Option Fault :=
  if t.year < 1 || t.year > 9999 then some (.badValue s!"year {t.year} is out of range")
  else if t.month < 1 || t.month > 12 then some (.badValue "month must be in 1..12")
  else if t.day < 1 || t.day > daysInMonth t.year t.month then
    some (.badValue "day is out of range for month")
  else if t.hour > 23 then some (.badValue "hour must be in 0..23")
  else if t.minute > 59 then some (.badValue "minute must be in 0..59")
  else if t.second > 59 then some (.badValue "second must be in 0..59")
  else none

/-- A number written with at least `w` digits. -/
def padNumber (w : Nat) (n : Nat) : String :=
  let s := toString n
  String.ofList (List.replicate (w - s.length) '0') ++ s

/-- The offset as written: `±HH:MM`. -/
def offsetText (minutes : Int) : String :=
  let sign := if minutes < 0 then "-" else "+"
  let m := minutes.natAbs
  sign ++ padNumber 2 (m / 60) ++ ":" ++ padNumber 2 (m % 60)

/-- The timestamp as written. -/
def Timestamp.isoText (t : Timestamp) : String :=
  let date := s!"{padNumber 4 t.year}-{padNumber 2 t.month}-{padNumber 2 t.day}"
  let time := s!"{padNumber 2 t.hour}:{padNumber 2 t.minute}:{padNumber 2 t.second}"
  let frac := if t.micro == 0 then "" else "." ++ padNumber 6 t.micro
  date ++ "T" ++ time ++ frac ++ (t.offset.map offsetText).getD ""

/-- The value of ASCII digits. -/
def asciiNumber (cs : List Char) : Nat := cs.foldl (fun n c => 10 * n + (c.toNat - 48)) 0

/-- Exactly `n` ASCII digits at the front, and the rest. -/
def takeAsciiDigits (n : Nat) (cs : List Char) : Option (Nat × List Char) :=
  let ds := cs.take n
  if ds.length == n && ds.all Char.isDigit then some (asciiNumber ds, cs.drop n) else none

/-- A fraction of a second: its microseconds from the first six digits. -/
def fractionMicros (ds : List Nat) : Nat :=
  (ds.take 6 ++ List.replicate (6 - (ds.take 6).length) 0).foldl (fun n d => 10 * n + d) 0

/-- Reads the strict offset: `Z`, `z`, `±hh`, `±hh:mm` or `±hhmm` of less than a day, and
nothing after it. -/
def strictOffset (cs : List Char) : Option (Option Int) :=
  match cs with
  | [] => some none
  | ['Z'] | ['z'] => some (some 0)
  | s :: rest =>
    if s != '+' && s != '-' then none
    else do
      let (h, rest) ← takeAsciiDigits 2 rest
      let rest := match rest with
        | ':' :: r => r
        | r => r
      let (m, rest) ← if rest.isEmpty then pure (0, rest) else takeAsciiDigits 2 rest
      if !rest.isEmpty || h * 60 + m ≥ 24 * 60 then none
      else
        let total : Int := (h * 60 + m : Nat)
        some (some (if s == '-' then -total else total))

/-- Reads a fraction after `.` or `,`: its digits and the rest. -/
def strictFraction (cs : List Char) : List Nat × List Char :=
  match cs with
  | sep :: rest =>
    if sep == '.' || sep == ',' then
      let ds := rest.takeWhile Char.isDigit
      if ds.isEmpty then ([], cs) else (ds.map (fun c => c.toNat - 48), rest.drop ds.length)
    else ([], cs)
  | [] => ([], [])

/-- Reads the strict time of day and offset; a time with minutes must be written `extended`
(with colons) exactly when the date is. -/
def strictTime (extended : Bool) (cs : List Char) : Option (Nat × Nat × Nat × Nat × Option Int) := do
  let (h, rest) ← takeAsciiDigits 2 cs
  let colon := rest.head? == some ':'
  let digit := (rest.head?.map Char.isDigit).getD false
  if !colon && !digit then
    return (h, 0, 0, 0, ← strictOffset rest)
  if colon != extended then none
  let afterSep (r : List Char) : List Char := if extended then r.drop 1 else r
  let startsField (r : List Char) : Bool :=
    if extended then r.head? == some ':' else (r.head?.map Char.isDigit).getD false
  let (m, rest) ← takeAsciiDigits 2 (afterSep rest)
  if !startsField rest then
    return (h, m, 0, 0, ← strictOffset rest)
  let (s, rest) ← takeAsciiDigits 2 (afterSep rest)
  let (frac, rest) := strictFraction rest
  return (h, m, s, fractionMicros frac, ← strictOffset rest)

/-- Whether a list starts with the separator of date and time, or is empty. -/
def endsDate (cs : List Char) : Bool :=
  match cs with
  | [] => true
  | c :: _ => c == 'T' || c == 't' || c == ' '

/-- Reads a week date after the `W`: the week, then the day of the week (after a hyphen when
`extended`), Monday when it is left out. -/
def strictWeekDate (year : Nat) (extended : Bool) (cs : List Char) :
    Option ((Nat × Nat × Nat) × List Char) := do
  let (w, rest) ← takeAsciiDigits 2 cs
  let (d, rest) ← if endsDate rest then pure (1, rest) else do
    let rest ← if extended then (match rest with | '-' :: r => some r | _ => none) else some rest
    takeAsciiDigits 1 rest
  return (← Calendar.ofWeekDate year w d, rest)

/-- Reads the strict date: the year, then the rest of an extended or a basic date.  Yields the
year, month and day, whether the date is extended, and the rest of the text; none when the text
does not fit or names a week or a day of the year the year does not have. -/
def strictDate (cs : List Char) : Option ((Nat × Nat × Nat) × Bool × List Char) := do
  let (year, rest) ← takeAsciiDigits 4 cs
  match rest with
  | '-' :: r1 =>
    match r1 with
    | 'W' :: r2 => do
      let (date, r3) ← strictWeekDate year true r2
      pure (date, true, r3)
    | _ => do
      let (m, r2) ← takeAsciiDigits 2 r1
      if endsDate r2 then return ((year, m, 1), true, r2)
      match r2 with
      | '-' :: r3 => do
        let (d, r4) ← takeAsciiDigits 2 r3
        pure ((year, m, d), true, r4)
      | _ => do
        let (last, r3) ← takeAsciiDigits 1 r2
        pure (← Calendar.ofDayOfYear year (m * 10 + last), true, r3)
  | 'W' :: r1 => do
    let (date, r2) ← strictWeekDate year false r1
    pure (date, false, r2)
  | r1 => do
    let (n, r2) ← takeAsciiDigits 3 r1
    match takeAsciiDigits 1 r2 with
    | some (last, r3) => pure ((year, n / 10, n % 10 * 10 + last), false, r3)
    | none => pure (← Calendar.ofDayOfYear year n, false, r2)

/-- Reads a timestamp in the strict grammar; none when the text does not fit it or a field is
out of range.  Midnight at the end of a day is the next day's start, which does not exist after
the last day of year 9999. -/
def readStrict (text : String) : Except Fault (Option Timestamp) :=
  let parsed : Option Timestamp := do
    let ((year, month, day), extended, rest) ← strictDate text.toList
    let t : Timestamp := { year, month, day }
    match rest with
    | [] => pure t
    | sep :: r =>
      if sep == 'T' || sep == 't' || sep == ' ' then do
        let (hour, minute, second, micro, offset) ← strictTime extended r
        pure { t with hour, minute, second, micro, offset }
      else none
  match parsed with
  | none => .ok none
  | some t =>
    let endOfDay := t.hour == 24 && t.minute == 0 && t.second == 0 && t.micro == 0
    let t := if endOfDay then { t with hour := 0 } else t
    if t.rangeFault.isSome then .ok none
    else if !endOfDay then .ok (some t)
    else
      let (year, month, day) := Calendar.nextDay t.year t.month t.day
      if year > 9999 then .error (.overflow "date value out of range")
      else .ok (some { t with year, month, day })

/-- Between `lo` and `hi` digits of any script at the front, as many as there are. -/
def takeDigits (lo hi : Nat) (cs : List Char) : Option (List Nat × List Char) :=
  let ds := (cs.take hi).takeWhile (fun c => (Text.digitValue? c).isSome)
  if ds.length < lo then none else some (ds.filterMap Text.digitValue?, cs.drop ds.length)

/-- The value of digits. -/
def digitsNumber (ds : List Nat) : Nat := ds.foldl (fun n d => 10 * n + d) 0

/-- Reads the loose offset and the end of the text (a final line feed is allowed). -/
def looseOffset (cs : List Char) : Option (Option (Char × Nat × Nat)) :=
  let atEnd (r : List Char) : Bool := r.isEmpty || r == ['\n']
  if atEnd cs then some none
  else match cs with
    | 'Z' :: r => if atEnd r then some (some ('Z', 0, 0)) else none
    | s :: r =>
      if s != '+' && s != '-' then none
      else do
        let (h, r) ← takeDigits 2 2 r
        if atEnd r then return some (s, digitsNumber h, 0)
        let r := match r with
          | ':' :: r' => r'
          | r' => r'
        let (m, r) ← takeDigits 2 2 r
        if atEnd r then return some (s, digitsNumber h, digitsNumber m) else none
    | [] => some none

/-- The fault of an offset of a day or more. -/
def offsetFault (minutes : Int) : Fault :=
  let secs := minutes * 60
  let days := Int.fdiv secs 86400
  let rest := secs - days * 86400
  let parts := (if days != 0 then [s!"days={days}"] else []) ++ (if rest != 0 then [s!"seconds={rest}"] else [])
  let shown := if parts.isEmpty then "0" else ", ".intercalate parts
  .badValue ("offset must be a timedelta strictly between -timedelta(hours=24) and " ++
    s!"timedelta(hours=24), not datetime.timedelta({shown}).")

/-- Reads a timestamp in the loose grammar: none when the text does not fit it, a fault when a
field is out of range. -/
def readLoose (text : String) : Except Fault (Option Timestamp) :=
  let parsed : Option (Timestamp × Option (Char × Nat × Nat)) := do
    let cs := text.toList
    let (y, r) ← takeDigits 4 4 cs
    let r ← match r with | '-' :: r => some r | _ => none
    let (mo, r) ← takeDigits 1 2 r
    let r ← match r with | '-' :: r => some r | _ => none
    let (d, r) ← takeDigits 1 2 r
    let r ← match r with
      | c :: r => if c == 'T' || c == ' ' then some r else none
      | [] => none
    let (h, r) ← takeDigits 1 2 r
    let r ← match r with | ':' :: r => some r | _ => none
    let (mi, r) ← takeDigits 1 2 r
    let t : Timestamp := { year := digitsNumber y, month := digitsNumber mo, day := digitsNumber d,
                           hour := digitsNumber h, minute := digitsNumber mi }
    let (t, r) ← match r with
      | ':' :: r' => do
        let (s, r') ← takeDigits 1 2 r'
        let t := { t with second := digitsNumber s }
        match r' with
        | '.' :: r'' => do
          let (f, r'') ← takeDigits 1 6 r''
          let (_, r'') ← takeDigits 0 6 r''
          pure ({ t with micro := fractionMicros f }, r'')
        | _ => pure (t, r')
      | _ => pure (t, r)
    let tz ← looseOffset r
    pure (t, tz)
  match parsed with
  | none => .ok none
  | some (t, tz) =>
    let offset : Option Int := tz.map fun (s, h, m) =>
      let total : Int := (h * 60 + m : Nat)
      if s == '-' then -total else total
    match offset with
    | some o =>
      if o.natAbs ≥ 24 * 60 then .error (offsetFault o)
      else match t.rangeFault with
        | some f => .error f
        | none => .ok (some { t with offset })
    | none =>
      match t.rangeFault with
      | some f => .error f
      | none => .ok (some t)

/-- Reads a timestamp: the strict grammar first, then the loose one. -/
def readTimestamp (text : String) : Except Fault (Option Timestamp) :=
  match readStrict text with
  | .ok (some t) => .ok (some t)
  | .ok none => readLoose text
  | .error f => .error f

/-- A timestamp as a document. -/
def Timestamp.toValue (t : Timestamp) : Value := .obj [("$datetime", .str t.isoText)]

end ConnectedHome.Hub
