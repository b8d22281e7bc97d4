import ConnectedHome.Document.Convert
/-!
# What a speaker reports

A speaker answers its requests with flat documents and pushes events as small documents; each
kind is read into a record here.

* **Flat replies** (device information, zone status, player information, link distribution)
  read each member under the speakers' conversion rules (`ConversionRules.speaker`): a member
  that is missing, null, a list or an object, or whose conversion is refused, keeps its
  default.  Every reply has a response code, `"0"` when the speaker accepted the request.
* **Features** give the number of zones and, per zone id, its sound programs and inputs.  The
  zones of a speaker are the first `zone_num` of `main`, `zone2`, `zone3`, `zone4`.
* **Presets** and **recent entries** are lists of texts.
* **Events** carry a zone part per zone, a player part, and the id of the speaker that sent them.

Members read without conversion are written as text the way the speaker's own texts are, so a
number becomes its numeral and null becomes `None`.
-/
namespace ConnectedHome.Speaker

/-- The response code of an accepted request. -/
def okCode : String := "0"

/-- The zones a speaker can have, in the order they are counted. -/
def allZones : List String := ["main", "zone2", "zone3", "zone4"]

/-- The main zone. -/
def mainZone : String := "main"

/-- The value of a member in a list of read members. -/
def memberOf (ms : List (String × Value)) (k : String) : Value := (Members.lookup ms k).getD .null

/-- A flat reply of a speaker: its members in declaration order. -/
structure Reply where
  members : List (String × Value)
deriving Inhabited

/-- A member of a reply. -/
def Reply.get (r : Reply) (k : String) : Value := memberOf r.members k

/-- A text member of a reply; none when it is not text. -/
def Reply.text? (r : Reply) (k : String) : Option String :=
  match r.get k with
  | .str s => some s
  | _ => none

/-- A whole number as a speaker's records keep it.  A truth value that arrives where a whole
number is declared stays a truth value: it counts as 1 or 0 and is shown as a truth value. -/
inductive Whole where
  | int (i : Int)
  | truth (b : Bool)
deriving Inhabited, DecidableEq

/-- The number a whole number counts as. -/
def Whole.toInt : Whole → Int
  | .int i => i
  | .truth b => if b then 1 else 0

/-- The whole number as a document. -/
def Whole.toValue : Whole → Value
  | .int i => .int i
  | .truth b => .bool b

/-- A whole-number member of a reply as the reply holds it; 0 when it is neither a whole number
nor a truth value. -/
def Reply.number (r : Reply) (k : String) : Whole :=
  match r.get k with
  | .int i => .int i
  | .bool b => .truth b
  | _ => .int 0

/-- A whole-number member of a reply as the number it counts as. -/
def Reply.whole (r : Reply) (k : String) : Int := (r.number k).toInt

/-- A truth member of a reply; false when it is not a truth value. -/
def Reply.flag (r : Reply) (k : String) : Bool :=
  match r.get k with
  | .bool b => b
  | _ => false

/-- Whether the speaker accepted the request. -/
def Reply.isOk (r : Reply) : Bool :=
  match r.get "response_code" with
  | .str s => s == okCode
  | _ => false

/-- The reply as a document. -/
def Reply.toValue (r : Reply) : Value := .obj r.members

/-- The response code member every reply has. -/
def responseCodeSpec : MemberSpec := ⟨"response_code", "response_code", .text, .str okCode⟩

/-- The reply with every member at its default. -/
def Reply.empty (specs : List MemberSpec) : Reply :=
  ⟨(responseCodeSpec :: specs).map fun m => (m.name, m.default)⟩

/-- Reads a flat reply with the given members. -/
def Reply.read (specs : List MemberSpec) (doc : Value) : Except Fault Reply := do
  return ⟨← ConversionRules.speaker.readFlat (responseCodeSpec :: specs) doc⟩

/-- The members of the device information. -/
def deviceInfoSpecs : List MemberSpec :=
  [.plain "model_name" .text, .plain "destination" .text, .plain "device_id" .text,
   .plain "system_id" .text, .plain "system_version" .real, .plain "api_version" .real,
   .plain "netmodule_version" .text]

/-- The members of a zone status. -/
def zoneStatusSpecs : List MemberSpec :=
  [.plain "power" .text, ⟨"sleep", "sleep", .whole, .int 0⟩, ⟨"volume", "volume", .whole, .int 0⟩,
   ⟨"mute", "mute", .truth, .bool false⟩, ⟨"max_volume", "max_volume", .whole, .int 0⟩,
   .plain "input" .text, .plain "sound_program" .text]

/-- The members of the player information. -/
def playInfoSpecs : List MemberSpec :=
  [.plain "input" .text, .plain "playback" .text, .plain "repeat" .text, .plain "shuffle" .text,
   ⟨"play_time", "play_time", .whole, .int 0⟩, ⟨"total_time", "total_time", .whole, .int 0⟩,
   ⟨"artist", "artist", .text, .str ""⟩, ⟨"album", "album", .text, .str ""⟩,
   ⟨"track", "track", .text, .str ""⟩, ⟨"albumart_url", "albumart_url", .text, .str ""⟩]

/-- The flat members of the link distribution. -/
def distributionSpecs : List MemberSpec :=
  [⟨"group_id", "group_id", .text, .str ""⟩, ⟨"group_name", "group_name", .text, .str ""⟩,
   ⟨"role", "role", .text, .str ""⟩, ⟨"server_zone", "server_zone", .text, .str ""⟩]

/-- The text a member stands for when it is read without conversion. -/
def plainText (v : Value) : String := v.display

/-- The zone layout of a speaker. -/
structure Features where
  responseCode : String := okCode
  zoneNum : Int := 0
  zones : List String := []
  soundPrograms : List (String × List Value) := []
  inputs : List (String × List Value) := []
deriving Inhabited

/-- The zone id of a zone entry, when it has a true one. -/
def zoneIdOf (zone : Value) : Except Fault (Option String) := do
  let id ← zone.get "id"
  return if id.truthy then some (plainText id) else none

/-- The list a zone entry gives under `key`, empty when it counts as absent. -/
def zoneList (zone : Value) (key : String) : Except Fault (List Value) := do
  let v ← zone.get key
  (v.orElse (.list [])).elements

/-- Per zone id, the list each zone entry gives under `key`; a later entry of an id replaces an
earlier one where it stands. -/
def zoneTable (zones : List Value) (key : String) : Except Fault (List (String × List Value)) :=
  zones.foldlM (fun acc zone => do
    match ← zoneIdOf zone with
    | some id =>
      let items ← zoneList zone key
      if acc.any (·.1 == id) then
        return acc.map fun (k, v) => if k == id then (k, items) else (k, v)
      else return acc ++ [(id, items)]
    | none => return acc) []

/-- Reads the features. -/
def Features.read (doc : Value) : Except Fault Features := do
  let system := (← doc.get "system").orElse (.obj [])
  let zoneRaw := (← doc.get "zone").orElse (.list [])
  let code := plainText (← doc.getD "response_code" (.str okCode))
  let zoneNum ← (← system.getD "zone_num" (.int 0)).toInt
  let zoneDocs ← zoneRaw.elements
  let zones ← zoneDocs.filterMapM zoneIdOf
  let soundPrograms ← zoneTable zoneDocs "sound_program_list"
  let inputs ← zoneTable zoneDocs "input_list"
  return { responseCode := code, zoneNum, zones, soundPrograms, inputs }

/-- The zones of the speaker: the first `zone_num` of the four. -/
def Features.zoneIds (f : Features) : List String := allZones.take f.zoneNum.toNat

/-- Whether the speaker accepted the request. -/
def Features.isOk (f : Features) : Bool := f.responseCode == okCode

/-- The features as a document. -/
def Features.toValue (f : Features) : Value :=
  .obj [("response_code", .str f.responseCode), ("zone_num", .int f.zoneNum),
    ("zones", Value.ofStrings f.zones),
    ("sound_programs", .obj (f.soundPrograms.map fun (k, v) => (k, .list v))),
    ("inputs", .obj (f.inputs.map fun (k, v) => (k, .list v)))]

/-- A preset: its input and its text. -/
structure Preset where
  input : String := ""
  text : String := ""
deriving Inhabited

/-- The presets of the player. -/
structure PresetInfo where
  responseCode : String := okCode
  presets : List Preset := []
deriving Inhabited

/-- Reads the presets. -/
def PresetInfo.read (doc : Value) : Except Fault PresetInfo := do
  let code := plainText (← doc.getD "response_code" (.str okCode))
  let entries ← ((← doc.get "preset_info").orElse (.list [])).elements
  let presets ← entries.mapM fun e => do
    let input ← e.getD "input" (.str "")
    let text ← e.getD "text" (.str "")
    return ({ input := plainText input, text := plainText text } : Preset)
  return { responseCode := code, presets }

/-- The presets as a document. -/
def PresetInfo.toValue (p : PresetInfo) : Value :=
  .obj [("response_code", .str p.responseCode),
    ("presets", .list (p.presets.map fun e => .obj [("input", .str e.input), ("text", .str e.text)]))]

/-- The recent entries of the player, newest first. -/
structure RecentInfo where
  responseCode : String := okCode
  texts : List String := []
deriving Inhabited

/-- Reads the recent entries. -/
def RecentInfo.read (doc : Value) : Except Fault RecentInfo := do
  let code := plainText (← doc.getD "response_code" (.str okCode))
  let entries ← ((← doc.get "recent_info").orElse (.list [])).elements
  let texts ← entries.mapM fun e => do return plainText (← e.getD "text" (.str ""))
  return { responseCode := code, texts }

/-- The text of the newest entry, empty when there is none. -/
def RecentInfo.lastInput (r : RecentInfo) : String := r.texts.headD ""

/-- The recent entries as a document. -/
def RecentInfo.toValue (r : RecentInfo) : Value :=
  .obj [("response_code", .str r.responseCode), ("texts", Value.ofStrings r.texts)]

/-- The link distribution of a speaker: its flat members and the addresses of its clients. -/
structure Distribution where
  reply : Reply
  clients : List String := []
deriving Inhabited

/-- Reads the link distribution. -/
def Distribution.read (doc : Value) : Except Fault Distribution := do
  let reply ← Reply.read distributionSpecs doc
  let entries ← ((← doc.get "client_list").orElse (.list [])).elements
  let clients ← entries.filterMapM fun c => do
    let ip ← c.get "ip_address"
    if ip.truthy then return some (plainText (← c.item "ip_address")) else return none
  return { reply, clients }

/-- The role of the speaker in a link. -/
def Distribution.role (d : Distribution) : Value := d.reply.get "role"

/-- The distribution as a document. -/
def Distribution.toValue (d : Distribution) : Value :=
  .obj (d.reply.members ++ [("client_list", Value.ofStrings d.clients)])

/-- The members of the zone part of an event. -/
def zoneEventSpecs : List MemberSpec :=
  [⟨"power", "power", .text, .str ""⟩, ⟨"mute", "mute", .text, .str ""⟩,
   ⟨"input", "input", .text, .str ""⟩, ⟨"volume", "volume", .whole, .int 0⟩,
   ⟨"status_updated", "status_updated", .truth, .bool false⟩]

/-- Reads the zone part of an event. -/
def readZoneEvent (doc : Value) : Except Fault Reply := do
  return ⟨← ConversionRules.speaker.readFlat zoneEventSpecs doc⟩

/-- The player part of an event. -/
structure PlayerEvent where
  presetNumber : Int := 0
  playInfoUpdated : Bool := false
deriving Inhabited

/-- A number member read leniently: a value that is no number counts as 0. -/
def lenientWhole (v : Value) : Except Fault Int :=
  match v.toInt with
  | .ok i => .ok i
  | .error f => if f.isConversionRefusal then .ok 0 else .error f

/-- Reads the player part of an event. -/
def PlayerEvent.read (doc : Value) : Except Fault PlayerEvent := do
  let control ← match ← doc.get "preset_control" with
    | c@(.obj _) => pure c
    | _ => pure (.obj [])
  let number ← lenientWhole (← control.getD "num" (.int 0))
  let updated ← ConversionRules.speaker.convert .truth (← doc.getD "play_info_updated" (.bool false))
  return { presetNumber := number, playInfoUpdated := updated.truthy }

/-- The player part as a document. -/
def PlayerEvent.toValue (e : PlayerEvent) : Value :=
  .obj [("preset_number", .int e.presetNumber), ("play_info_updated", .bool e.playInfoUpdated)]

/-- An event pushed by a speaker. -/
structure SpeakerEvent where
  deviceId : String := ""
  zones : List (String × Reply) := []
  player : Option PlayerEvent := none
deriving Inhabited

/-- Reads an event: the zone parts that are objects, the player part if it is one. -/
def SpeakerEvent.read (doc : Value) : Except Fault SpeakerEvent := do
  let zones ← allZones.filterMapM fun z => do
    match ← doc.get z with
    | part@(.obj _) => return some (z, ← readZoneEvent part)
    | _ => return none
  let deviceId := plainText (← doc.getD "device_id" (.str ""))
  let player ← match ← doc.get "netusb" with
    | part@(.obj _) => some <$> PlayerEvent.read part
    | _ => pure none
  return { deviceId, zones, player }

/-- The event as a document. -/
def SpeakerEvent.toValue (e : SpeakerEvent) : Value :=
  .obj [("device_id", .str e.deviceId), ("zones", .obj (e.zones.map fun (z, r) => (z, r.toValue))),
    ("netusb", (e.player.map PlayerEvent.toValue).getD .null)]

end ConnectedHome.Speaker
