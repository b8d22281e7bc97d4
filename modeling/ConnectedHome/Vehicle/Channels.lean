import ConnectedHome.Number.Binary
import ConnectedHome.Text.Case
import ConnectedHome.Document.Literal
/-!
# Channels of a vehicle

The stored vehicle data report names its values by field ids such as `0x0101010002`.  The
channel table says what each id means: a symbolic name, the channel it feeds (empty for values
that are not published), the group of the channel, the kind of item (switch, text or number),
the unit it is published in and a scale factor.  A channel is addressed by its key
`group#channel`.

The table (`Channel.table`) holds 61 definitions, written out for the general values and built
by pattern for the six doors (lock, closed state, safety lock), the six windows (closed state,
position) and the five tires (pressure flag, desired pressure).  Looking an id up ignores letter
case (`ChannelTable.find`).

A field may report its value in another unit than the channel's.  `Channel.withReportedUnit`
turns a definition into one that describes the reported value: the unit texts the service
sends map to a unit and a scale (`dK` is tenths of a kelvin); an unknown or empty unit leaves
the definition as it is.
-/
namespace ConnectedHome.Vehicle

/-- The kind of item a channel feeds. -/
inductive ItemKind where
  | switch
  | text
  | number
  /-- A kind named in a definition that the table does not use. -/
  | other (name : String)
deriving BEq, Inhabited

/-- The name of an item kind. -/
def ItemKind.name : ItemKind → String
  | .switch => "Switch"
  | .text => "String"
  | .number => "Number"
  | .other n => n

/-- The item kind of a name. -/
def ItemKind.ofName : String → ItemKind
  | "Switch" => .switch
  | "String" => .text
  | "Number" => .number
  | n => .other n

/-- A channel definition. -/
structure Channel where
  id : String
  symbolicName : String
  channel : String
  group : String
  itemKind : ItemKind := .number
  unit : Option String := none
  scale : Float := 1.0
deriving Inhabited

/-- The key `group#channel` of a channel. -/
def Channel.key (c : Channel) : String := c.group ++ "#" ++ c.channel

/-- The definition as a document. -/
def Channel.toValue (c : Channel) : Value :=
  .obj [("id", .str c.id), ("symbolic_name", .str c.symbolicName), ("channel", .str c.channel),
    ("group", .str c.group), ("item_type", .str c.itemKind.name), ("unit", Value.ofOption c.unit),
    ("scale", .float c.scale)]

/-- Two upper-case hexadecimal digits. -/
def hex2 (n : Nat) : String :=
  let d (k : Nat) : Char := if k < 10 then Char.ofNat (48 + k) else Char.ofNat (55 + k)
  String.ofList [d (n / 16 % 16), d (n % 16)]

/-- A door: lock, closed state and safety lock at three consecutive ids. -/
def doorChannels (base : Nat) (side name : String) : List Channel :=
  [⟨s!"0x03010400{hex2 base}", s!"LOCK2_{side}", s!"lock{name}", "doors", .switch, none, 1.0⟩,
   ⟨s!"0x03010400{hex2 (base + 1)}", s!"STATE3_{side}", s!"door{name}Closed", "doors", .switch,
     none, 1.0⟩,
   ⟨s!"0x03010400{hex2 (base + 2)}", s!"SAFETY_{side}", s!"safety{name}", "doors", .switch, none,
     1.0⟩]

/-- A window: closed state and position in percent. -/
def windowChannels (base : Nat) (side name : String) : List Channel :=
  [⟨s!"0x03010500{hex2 base}", s!"STATE3_WINDOWS_{side}", s!"window{name}Closed", "windows",
     .switch, none, 1.0⟩,
   ⟨s!"0x03010500{hex2 (base + 1)}", s!"POS_WINDOWS_{side}", s!"window{name}Pos", "windows",
     .number, some "%", 1.0⟩]

/-- A tire: pressure flag and the desired pressure, which is not published. -/
def tireChannels (base : Nat) (side name : String) : List Channel :=
  [⟨s!"0x03010600{hex2 base}", s!"TIREPRESS_{side}_CURRENT", s!"tirePress{name}", "tires",
     .switch, none, 1.0⟩,
   ⟨s!"0x03010600{hex2 (base + 1)}", s!"TIREPRESS_{side}_DESIRED", "", "tires", .text, none, 1.0⟩]

/-- The built-in channel table. -/
def Channel.table : List Channel :=
  [⟨"0x0101010002", "KILOMETER_STATUS", "odometer", "general", .number, some "km", 1.0⟩,
   ⟨"0x0301020001", "TEMPERATURE_OUTSIDE", "tempOutside", "general", .number, some "°C", 1.0⟩,
   ⟨"0x0101010001", "UTC_TIME_STATUS", "", "general", .text, none, 1.0⟩,
   ⟨"0x0301010001", "PARKING_LIGHT", "parkingLight", "status", .switch, none, 1.0⟩,
   ⟨"0x0301030001", "PARKING_BRAKE", "parkingBrake", "status", .switch, none, 1.0⟩,
   ⟨"0x0301030004", "SPEED", "", "status", .number, none, 1.0⟩,
   ⟨"0x030103000A", "LEVEL_FUEL", "fuelLevel", "range", .number, some "%", 1.0⟩,
   ⟨"0x0301030005", "TOTAL_RANGE", "totalRange", "range", .number, some "km", 1.0⟩,
   ⟨"0x0301030006", "PRIMARY_RANGE", "primaryRange", "range", .number, some "km", 1.0⟩,
   ⟨"0x0301030007", "PRIMARY_DRIVE", "primaryFuelType", "range", .text, none, 1.0⟩,
   ⟨"0x0301030008", "SECONDARY_RANGE", "secondaryRange", "range", .number, some "km", 1.0⟩,
   ⟨"0x0301030009", "SECONDARY_DRIVE", "secondaryFuelType", "range", .text, none, 1.0⟩,
   ⟨"0x0301030002", "STATE_OF_CHARGE", "stateOfCharge", "range", .number, some "%", 1.0⟩,
   ⟨"0x0203010001", "MAINT_OIL_DISTANCE_TO", "oilDistance", "maintenance", .number, some "km", 1.0⟩,
   ⟨"0x0203010002", "MAINT_OIL_TIME_TO", "oilIntervalDays", "maintenance", .number, some "d", 1.0⟩,
   ⟨"0x0203010003", "MAINT_INSPECTION_DISTANCE_TO", "inspectionDistance", "maintenance", .number,
     some "km", 1.0⟩,
   ⟨"0x0203010004", "MAINT_INSPECTION_TIME_TO", "inspectionDays", "maintenance", .number,
     some "d", 1.0⟩,
   ⟨"0x0203010005", "WARNING_OIL_CHANGE", "oilWarningChange", "maintenance", .switch, none, 1.0⟩,
   ⟨"0x0203010006", "MAINT_ALARM_INSPECTION", "alarmInspection", "maintenance", .switch, none, 1.0⟩,
   ⟨"0x0203010007", "MAINT_MONTHLY_MILEAGE", "monthlyMileage", "maintenance", .number, some "km",
     1.0⟩,
   ⟨"0x02040C0001", "AD_BLUE_RANGE", "adBlueRange", "maintenance", .number, some "km", 1.0⟩] ++
  doorChannels 0x01 "DOOR_LEFT_FRONT" "LeftFront" ++
  doorChannels 0x04 "DOOR_LEFT_REAR" "LeftRear" ++
  doorChannels 0x07 "DOOR_RIGHT_FRONT" "RightFront" ++
  doorChannels 0x0A "DOOR_RIGHT_REAR" "RightRear" ++
  doorChannels 0x0D "TRUNK_LID" "Trunk" ++
  doorChannels 0x10 "HOOD" "Hood" ++
  windowChannels 0x01 "LEFT_FRONT" "LeftFront" ++
  windowChannels 0x03 "LEFT_REAR" "LeftRear" ++
  windowChannels 0x05 "RIGHT_FRONT" "RightFront" ++
  windowChannels 0x07 "RIGHT_REAR" "RightRear" ++
  windowChannels 0x0B "ROOF_COVER" "RoofCover" ++
  windowChannels 0x0D "SUN_ROOF" "SunRoof" ++
  tireChannels 0x01 "LEFT_FRONT" "LeftFront" ++
  tireChannels 0x03 "LEFT_REAR" "LeftRear" ++
  tireChannels 0x05 "RIGHT_FRONT" "RightFront" ++
  tireChannels 0x07 "RIGHT_REAR" "RightRear" ++
  tireChannels 0x09 "SPARE" "Spare"

/-- Definitions by upper-cased id; a later definition of an id replaces an earlier one. -/
structure ChannelTable where
  entries : List (String × Channel)
deriving Inhabited

/-- A table of definitions. -/
def ChannelTable.ofList (cs : List Channel) : ChannelTable :=
  ⟨cs.foldl (fun acc c =>
    let k := Text.upper c.id
    if acc.any (·.1 == k) then acc.map (fun e => if e.1 == k then (k, c) else e)
    else acc ++ [(k, c)]) []⟩

/-- The built-in table. -/
def ChannelTable.builtIn : ChannelTable := ChannelTable.ofList Channel.table

/-- The definition of a field id, letter case ignored. -/
def ChannelTable.find (t : ChannelTable) (fieldId : String) : Option Channel :=
  let k := Text.upper fieldId
  (t.entries.find? (·.1 == k)).map (·.2)

/-- The number of ids in the table. -/
def ChannelTable.size (t : ChannelTable) : Nat := t.entries.length

/-- The unit and scale of a unit text the service sends. -/
def reportedUnit? : String → Option (String × Float)
  | "km" => some ("km", 1.0)
  | "mi" => some ("mi", 1.0)
  | "dK" => some ("K", Number.ofDecimal false 1 (-1))
  | "K" => some ("K", 1.0)
  | "°C" => some ("°C", 1.0)
  | "°F" => some ("°F", 1.0)
  | "%" => some ("%", 1.0)
  | "d" => some ("d", 1.0)
  | "h" => some ("h", 1.0)
  | "min" => some ("min", 1.0)
  | "l" => some ("L", 1.0)
  | "gal" => some ("gal", 1.0)
  | _ => none

/-- The definition describing a value reported in `reported`: unit and scale replaced for a
known unit, unchanged for an unknown or empty one. -/
def Channel.withReportedUnit (c : Channel) (reported : Option String) : Channel :=
  match reported with
  | none => c
  | some "" => c
  | some u =>
    match reportedUnit? u with
    | some (unit, scale) => { c with unit := some unit, scale := scale }
    | none => c

end ConnectedHome.Vehicle
