import ConnectedHome.Console.Answer
import ConnectedHome.Speaker.Zone
/-!
# Console: reading speaker replies

`speakerReportAnswer` reads a document as one kind of speaker reply or event and shows the
record, with whether the speaker accepted the request (for replies), the speaker's zones (for
features) and the newest recent entry.  `volumeAnswer` and `zoneLabelAnswer` show the volume
conversions and zone labels.
-/
namespace ConnectedHome.Console

open Speaker

/-- A flat reply as shown: its members and whether the speaker accepted the request. -/
def replyShown (r : Reply) : Value := .obj [("value", r.toValue), ("is_ok", .bool r.isOk)]

/-- The features as shown, with the speaker's zones. -/
def featuresShown (f : Features) : Value :=
  .obj [("value", f.toValue), ("is_ok", .bool f.isOk), ("zone_ids", Value.ofStrings f.zoneIds)]

/-- The presets as shown. -/
def presetsShown (p : PresetInfo) : Value :=
  .obj [("value", p.toValue), ("is_ok", .bool (p.responseCode == okCode))]

/-- The recent entries as shown, with the newest one. -/
def recentShown (r : RecentInfo) : Value :=
  .obj [("value", r.toValue), ("is_ok", .bool (r.responseCode == okCode)), ("last_input", .str r.lastInput)]

/-- The link distribution as shown. -/
def distributionShown (d : Distribution) : Value :=
  .obj [("value", d.toValue), ("is_ok", .bool d.reply.isOk)]

/-- A reading as shown, or its fault. -/
def shownOr {α : Type} (view : α → Value) : Except Fault α → Value
  | .ok a => view a
  | .error f => f.toValue

/-- Reads `data` as the speaker reply kind named `model`. -/
def speakerReportAnswer (req : Value) : Value :=
  let data := req.memberOr "data" .null
  let flat (specs : List MemberSpec) : Value := shownOr replyShown (Reply.read specs data)
  match req.textOr "model" "" with
  | "device_info" => flat deviceInfoSpecs
  | "zone_status" => flat zoneStatusSpecs
  | "play_info" => flat playInfoSpecs
  | "features" => shownOr featuresShown (Features.read data)
  | "preset_info" => shownOr presetsShown (PresetInfo.read data)
  | "recent_info" => shownOr recentShown (RecentInfo.read data)
  | "distribution_info" => shownOr distributionShown (Distribution.read data)
  | "zone_event" => answerWith "value" ((readZoneEvent data).map Reply.toValue)
  | "netusb_event" => answerWith "value" ((PlayerEvent.read data).map PlayerEvent.toValue)
  | "udp_message" => answerWith "value" ((SpeakerEvent.read data).map SpeakerEvent.toValue)
  | other => .obj [("error", .str "DriverError"), ("message", .str s!"unknown model {other}")]

/-- A whole number of a request. -/
def wholeOr (req : Value) (k : String) : Int :=
  match req.field? k with
  | some (.int i) => i
  | some (.bool b) => if b then 1 else 0
  | _ => 0

/-- A volume in percent, or the volume of a percentage. -/
def volumeAnswer (req : Value) : Value :=
  let maxVolume := wholeOr req "max_volume"
  match req.field? "percent" with
  | some _ => .obj [("volume", .int (percentToVolume (wholeOr req "percent") maxVolume))]
  | none => .obj [("percent", .int (volumeToPercent (wholeOr req "volume") maxVolume))]

/-- The label of a zone. -/
def zoneLabelAnswer (req : Value) : Value := .obj [("value", .str (zoneLabel (req.textOr "zone" "")))]

end ConnectedHome.Console
