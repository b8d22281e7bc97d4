import ConnectedHome.Vehicle.Channels
import ConnectedHome.Vehicle.Reports
import ConnectedHome.Number.Decimal
import ConnectedHome.Hub.Units
/-!
# Channel values and the state of the vehicle

A status report becomes channel values and an aggregated state of the vehicle.

* **Switches** (`switchState`) read the value as a whole number, through a float: names with
  `STATE2_` or `LOCK2_` are on at 2, names with `STATE3_`, `SAFETY_` or `LOCK3_` at 3, all others
  at 1.  An empty value, or one that is no number, has no state.
* **Numbers** (`numberState`) read the value as a decimal, scale it by the reported scale and
  convert it from the reported unit to the channel's unit.  A converted or scaled value is
  rounded to two places, a half going away from zero; a value in the channel's own unit and
  scale is kept as it is, and so is one whose units share no dimension.
* **Texts** are the value, or the empty text.

The aggregate (`Aggregate.update`) starts at "locked, no maintenance, tires ok, windows closed"
and is folded over every field with a value, on the raw texts: a lock that is not at its
locked value unlocks the vehicle, a maintenance alarm other than `1` or an AdBlue range below
1000 km calls for maintenance, a window state other than `3` opens the windows and a tire
pressure flag other than `1` marks the tires.

`processReport` computes both in one pass over the fields of a report, keeping only the
channels of a discovered set when one is given (`discoverChannels`).  Values are kept by
channel key; a later value of a key replaces the earlier one where it stands.
-/
namespace ConnectedHome.Vehicle

open Number Hub

/-- The on/off state of a raw switch value.  A value that counts as absent, or whose number
is no number, has no state; a value of a kind that has no number is a fault. -/
def switchState (c : Channel) (value : Value) : Except Fault (Option Bool) := do
  if !value.truthy then return none
  let n ← match value.toFloat with
    | .error (.badValue _) => return none
    | .error f => throw f
    | .ok x => match floatToInt x with
      | .error (.badValue _) => return none
      | .error f => throw f
      | .ok n => pure n
  let name := Text.upper c.symbolicName
  if name.contains "STATE2_" || name.contains "LOCK2_" then return some (n == 2)
  if name.contains "STATE3_" || name.contains "SAFETY_" || name.contains "LOCK3_" then
    return some (n == 3)
  return some (n == 1)

/-- Reads a raw number as a decimal; text that is no numeral has no value. -/
def readMeasurement (v : String) : Except Fault (Option Float) :=
  match readDecimal (Text.trimBlanks v) with
  | .error _ => .ok none
  | .ok d =>
    match d.toFloat with
    | .ok x => .ok (some x)
    | .error _ => .ok none

/-- Rounds to two places, a half away from zero. -/
def roundTwoPlaces (x : Float) : Except Fault Float := roundHalfUp (.float x) 2

/-- The channel value of a raw number: `definition` gives the channel's unit, `source` the
reported unit and scale.  A value that counts as absent has none; a value that is no text
cannot be trimmed. -/
def numberState (definition source : Channel) (value : Value) : Except Fault (Option Float) := do
  if !value.truthy then return none
  let .str v := value
    | throw (.noAttribute s!"'{value.kind}' object has no attribute 'strip'")
  let some x ← readMeasurement v | return none
  let some target := definition.unit | return some x
  let src := source.unit.getD target
  let src := if src.isEmpty then target else src
  let scaled := !(source.scale == 1.0)
  let x := if scaled then x * source.scale else x
  if src == target then
    if scaled then return some (← roundTwoPlaces x) else return some x
  match Dimension.common? src target with
  | none => return some x
  | some d => return some (← roundTwoPlaces (d.convert x src target))

/-- The channel value of a status field under a definition. -/
def channelValue (c : Channel) (f : StatusField) : Except Fault Value := do
  match c.itemKind with
  | .switch => return Value.ofBoolOption (← switchState c (f.get "value"))
  | .text => return .str (f.value?.getD "")
  | _ =>
    let source := c.withReportedUnit f.unit?
    match ← numberState c source (f.get "value") with
    | some x => return .float x
    | none => return .null

/-- The aggregated state of the vehicle. -/
structure Aggregate where
  vehicleLocked : Bool := true
  maintenanceRequired : Bool := false
  tiresOk : Bool := true
  windowsClosed : Bool := true
deriving Inhabited, BEq

/-- The aggregate as a document. -/
def Aggregate.toValue (a : Aggregate) : Value :=
  .obj [("vehicle_locked", .bool a.vehicleLocked), ("maintenance_required", .bool a.maintenanceRequired),
    ("tires_ok", .bool a.tiresOk), ("windows_closed", .bool a.windowsClosed)]

/-- The least AdBlue range, in km, that needs no maintenance. -/
def adBlueMinimum : Int := 1000

/-- Folds one field with its definition into the aggregate, check by check.  The AdBlue check
reads the range as a whole number; a range too large for one stops the fold there: the state
reached so far comes back with the fault, and the window and tire checks are not made. -/
def Aggregate.step (a : Aggregate) (c : Channel) (f : StatusField) : Aggregate × Option Fault :=
  match f.value? with
  | none => (a, none)
  | some v =>
    if v.isEmpty then (a, none) else
    let name := c.symbolicName
    let has (part : String) : Bool := name.contains part
    let a := if has "LOCK" then
        let locked := (has "LOCK2" && v == "2") || (has "LOCK3" && v == "3")
        if locked then a else { a with vehicleLocked := false }
      else a
    let a := if has "MAINT_ALARM" && v != "1" then { a with maintenanceRequired := true } else a
    let adBlue : Except Fault Aggregate := if has "AD_BLUE_RANGE" then
        match readFloat v with
        | .error f => if f.isConversionRefusal then pure a else throw f
        | .ok x => match floatToInt x with
          | .error (.badValue _) => pure a
          | .error f => throw f
          | .ok n => pure (if n < adBlueMinimum then { a with maintenanceRequired := true } else a)
      else pure a
    match adBlue with
    | .error fault => (a, some fault)
    | .ok a =>
      let a := if has "WINDOWS" && has "STATE" && v != "3" then { a with windowsClosed := false } else a
      let a := if has "TIREPRESS" && has "CURRENT" && v != "1" then { a with tiresOk := false } else a
      (a, none)

/-- Folds one field with its definition into the aggregate; a fault of the fold is thrown. -/
def Aggregate.update (a : Aggregate) (c : Channel) (f : StatusField) : Except Fault Aggregate :=
  match a.step c f with
  | (a, none) => .ok a
  | (_, some fault) => .error fault

/-- Channels by key, in the order they were discovered. -/
abbrev ChannelMap := List (String × Channel)

/-- The channels a report has values for: the definitions of its known field ids that feed a
channel, by key, each key at its first appearance. -/
def discoverChannels (r : StatusReport) (t : ChannelTable) : ChannelMap :=
  r.fields.foldl (fun acc (_, f) =>
    match t.find f.id with
    | some c => if !c.channel.isEmpty && !acc.any (·.1 == c.key) then acc ++ [(c.key, c)] else acc
    | none => acc) []

/-- Channel values by key, in order. -/
abbrev ChannelValues := List (String × Value)

/-- Writes a channel value: in place when the key has a value, at the end otherwise. -/
def ChannelValues.put (vs : ChannelValues) (k : String) (v : Value) : ChannelValues :=
  Members.put vs k v

/-- The channel values and the aggregate of a report. -/
structure StatusUpdate where
  values : ChannelValues := []
  aggregate : Aggregate := {}

/-- Computes the channel values and the aggregate of a report.  Fields without a definition or
whose definition feeds no channel are skipped entirely; with `channels` given, values of other
channels are dropped but still count for the aggregate. -/
def processReport (r : StatusReport) (t : ChannelTable) (channels : Option (List String)) :
    Except Fault StatusUpdate :=
  r.fields.foldlM (fun (u : StatusUpdate) (_, f) => do
    match t.find f.id with
    | none => return u
    | some c =>
      if c.channel.isEmpty then return u
      let keep := match channels with
        | none => true
        | some ks => ks.contains c.key
      let values ← if keep then do
          let v ← channelValue c f
          pure (u.values.put c.key v)
        else pure u.values
      let agg ← u.aggregate.update c f
      return { values := values, aggregate := agg }) {}

end ConnectedHome.Vehicle
