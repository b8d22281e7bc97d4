import ConnectedHome.Speaker.Polling
import ConnectedHome.Hub.Entity
import ConnectedHome.Hub.ConfigEntry
import ConnectedHome.Number.Numeral
/-!
# The speaker's entities

Every zone of a speaker is shown by a media player, three selects (preset, link server, sleep
timer) and a number for its volume in the speaker's steps; the speaker has a button that
dissolves the link it serves (`SpeakerEntity`, `speakerEntities`, in the order the hub sets the
platforms up: media players, selects, numbers, button).

Entities show the speaker as it is now, not as last published.  A media player is off in
standby, paused or playing as its player reports when on, and on otherwise; its volume is a
fraction of the zone's maximum, unknown while the maximum is.  Reading an entity makes its zone
known.  Commands run through the coordinator, named as its failures name them.

The diagnostics of a speaker's entry show the entry, the coordinator, the device information,
the features and the state, with device, system and group ids hidden.
-/
namespace ConnectedHome.Speaker

open Hub

/-- The domain the speakers' devices and entities belong to. -/
def speakerDomain : String := "yamaha_musiccast"

/-- The features a media player offers, as the hub's flags. -/
def mediaPlayerFeatures : Int := 384445

/-- The sleep timers a zone offers, in minutes. -/
def sleepOptions : List Int := [0, 30, 60, 90, 120]

/-- The repeat modes of the player. -/
def repeatModes : List String := ["off", "one", "all"]

/-- An entity of a speaker. -/
inductive SpeakerEntity where
  | mediaPlayer (zone : String)
  | presetSelect (zone : String)
  | linkServerSelect (zone : String)
  | sleepSelect (zone : String)
  | volumeNumber (zone : String)
  | unlinkButton
deriving Inhabited

namespace SpeakerEntity

/-- The class of the entity. -/
def className : SpeakerEntity → String
  | .mediaPlayer _ => "MusicCastMediaPlayer"
  | .presetSelect _ => "PresetSelect"
  | .linkServerSelect _ => "LinkServerSelect"
  | .sleepSelect _ => "SleepSelect"
  | .volumeNumber _ => "VolumeNumber"
  | .unlinkButton => "UnlinkServerButton"

/-- The part of the unique id after the speaker. -/
def idSuffix : SpeakerEntity → String
  | .mediaPlayer z => z ++ "_media_player"
  | .presetSelect z => z ++ "_preset"
  | .linkServerSelect z => z ++ "_link_server"
  | .sleepSelect z => z ++ "_sleep"
  | .volumeNumber z => z ++ "_volume_abs"
  | .unlinkButton => "unlink_server"

/-- The unique id of the entity of the speaker with id `deviceId`. -/
def uniqueId (e : SpeakerEntity) (deviceId : String) : String :=
  s!"musiccast_{Text.lower deviceId}_{e.idSuffix}"

/-- The name of the entity; the main zone's media player takes the speaker's name. -/
def name : SpeakerEntity → Option String
  | .mediaPlayer z => if z == mainZone then none else some (zoneLabel z)
  | .presetSelect z => some s!"{zoneLabel z} preset"
  | .linkServerSelect z => some s!"{zoneLabel z} link server"
  | .sleepSelect z => some s!"{zoneLabel z} sleep timer"
  | .volumeNumber z => some s!"{zoneLabel z} volume"
  | .unlinkButton => some "Unlink server"

/-- The icon of the entity. -/
def icon : SpeakerEntity → Option String
  | .mediaPlayer _ => none
  | .presetSelect _ => some "mdi:playlist-star"
  | .linkServerSelect _ => some "mdi:speaker-multiple"
  | .sleepSelect _ => some "mdi:timer-outline"
  | .volumeNumber _ => some "mdi:volume-high"
  | .unlinkButton => some "mdi:link-variant-off"

/-- The zone the entity belongs to. -/
def zone? : SpeakerEntity → Option String
  | .mediaPlayer z | .presetSelect z | .linkServerSelect z | .sleepSelect z | .volumeNumber z => some z
  | .unlinkButton => none

end SpeakerEntity

/-- The entities of a speaker, platform by platform. -/
def speakerEntities (s : Device) : List SpeakerEntity :=
  s.zoneIds.map .mediaPlayer ++
    s.zoneIds.flatMap (fun z => [.presetSelect z, .linkServerSelect z, .sleepSelect z]) ++
    s.zoneIds.map .volumeNumber ++ [.unlinkButton]

/-- The state a media player shows. -/
def mediaState (z : ZoneState) (p : PlayerState) : Value :=
  match z.power with
  | none => .null
  | some false => .str "off"
  | some true =>
    match p.state with
    | some "stop" | some "pause" => .str "paused"
    | some "play" | some "fast_reverse" | some "fast_forward" => .str "playing"
    | _ => .str "on"

/-- Text shown only when it is not empty. -/
def nonEmpty (t : String) : Value := if t.isEmpty then .null else .str t

/-- The device of a speaker as the hub registers it. -/
def speakerDeviceInfo (s : Device) (host : String) : Value :=
  let version := match s.info.get "system_version" with
    | .null => []
    | v => [("sw_version", Value.str v.display)]
  .obj ([("identifiers", identifiersValue [(speakerDomain, s.deviceId)]), ("name", .str s.name),
    ("manufacturer", .str "Yamaha"), ("model", (s.info.get "model_name").orElse (.str "MusicCast")),
    ("configuration_url", .str s!"http://{host}")] ++ version)

/-- The properties of an entity. -/
def SpeakerEntity.properties (e : SpeakerEntity) (s : Device) : List (String × Value) :=
  let p := s.state.player
  match e with
  | .mediaPlayer z =>
    let st := s.zone z
    let listed (table : List (String × List Value)) : Value := .list ((table.lookup z).getD [])
    [("state", mediaState st p),
     ("volume_level", if st.maxVolume.toInt == 0 then .null
       else propertyValue ((Number.divideInts st.volumePercent 100).map Value.float) Fault.toValue),
     ("is_volume_muted", Value.ofBoolOption st.mute), ("source", Value.ofOption st.input),
     ("source_list", listed s.features.inputs), ("sound_mode", Value.ofOption st.soundProgram),
     ("sound_mode_list", listed s.features.soundPrograms), ("media_title", nonEmpty p.track),
     ("media_artist", nonEmpty p.artist), ("media_album_name", nonEmpty p.album),
     ("media_image_url", nonEmpty p.albumartUrl),
     ("media_duration", if p.totalTime.toInt == 0 then .null else p.totalTime.toValue),
     ("repeat", match p.repeat with
       | some m => if repeatModes.contains m then .str m else .null
       | none => .null),
     ("shuffle", match p.shuffle with
       | some m => .bool (m != "off")
       | none => .null),
     ("extra_state_attributes", .obj [("zone", .str z), ("link_role", Value.ofOption s.state.role),
       ("playback", Value.ofOption p.state), ("sleep", st.sleep.toValue)]),
     ("supported_features", .int mediaPlayerFeatures)]
  | .presetSelect _ =>
    [("options", Value.ofStrings (s.state.presets.map (·.label))),
     ("current_option", Value.ofOption
       ((s.state.presets.find? fun o => (o.number : Int) == s.state.currentPreset).map (·.label)))]
  | .linkServerSelect z =>
    [("options", Value.ofStrings (s.state.linkOptions.map (·.label))),
     ("current_option", Value.ofOption
       ((s.state.linkOptions.find? fun o => some o.value == (s.zone z).linkServer).map (·.label)))]
  | .sleepSelect z =>
    [("options", Value.ofStrings (sleepOptions.map toString)),
     ("current_option", match (s.zone z).sleep with
       | .int m => if sleepOptions.contains m then .str (toString m) else .null
       -- a truth value is written `True` or `False`, which is no option
       | .truth _ => .null)]
  | .volumeNumber z =>
    let st := s.zone z
    [("native_value", st.volume.toValue),
     ("native_max_value", if st.maxVolume.toInt == 0 then .int 100 else st.maxVolume.toValue),
     ("native_min_value", .int 0), ("native_step", .int 1), ("mode", .str "slider")]
  | .unlinkButton => [("entity_category", .str "config")]

/-- The entity as the hub shows it. -/
def SpeakerEntity.view (e : SpeakerEntity) (s : Device) (host : String) : EntityView :=
  { className := e.className, uniqueId := e.uniqueId s.deviceId, name := Value.ofOption e.name,
    icon := Value.ofOption e.icon, deviceInfo := speakerDeviceInfo s host,
    properties := e.properties s }

/-- The speaker with every zone of its entities known. -/
def Device.touchZones (s : Device) : Device := s.zoneIds.foldl Device.touchZone s

/-- Reads the entities of the speaker. -/
def readEntities : SpeakerHomeM (List EntityView) := do
  modifySpeaker Device.touchZones
  let s ← speaker
  let host ← speakerHost
  return (speakerEntities s).map fun e => e.view s host

/-- The argument an action of an entity takes; none when the entity has no such action, and
`some none` when the action takes no argument. -/
def SpeakerEntity.actionParam : SpeakerEntity → String → Option (Option String)
  | .mediaPlayer _, action =>
    match action with
    | "turn_on" | "turn_off" | "media_play" | "media_pause" | "media_stop" | "media_next_track"
    | "media_previous_track" | "media_rewind" | "media_fast_forward" => some none
    | "set_volume_level" => some (some "volume")
    | "mute_volume" => some (some "mute")
    | "select_source" => some (some "source")
    | "select_sound_mode" => some (some "sound_mode")
    | "set_repeat" => some (some "repeat")
    | "set_shuffle" => some (some "shuffle")
    | _ => none
  | .presetSelect _, "select_option" | .linkServerSelect _, "select_option"
  | .sleepSelect _, "select_option" => some (some "option")
  | .volumeNumber _, "set_native_value" => some (some "value")
  | .unlinkButton, "press" => some none
  | _, _ => none

/-- The percentage a volume fraction stands for, rounded to the nearest, a tie to the even
one. -/
def fractionPercent (v : Value) : Except Fault Int :=
  match v with
  | .int i => .ok (i * 100)
  | .bool b => .ok (if b then 100 else 0)
  | .float x => Number.roundFloat (x * 100.0)
  | _ => .error (.badType s!"type {v.kind} doesn't define __round__ method")

/-- The player command of a media player action. -/
def playbackOf : String → Option String
  | "media_play" => some "play"
  | "media_pause" => some "pause"
  | "media_stop" => some "stop"
  | "media_next_track" => some "next"
  | "media_previous_track" => some "previous"
  | "media_rewind" => some "fast_reverse_start"
  | "media_fast_forward" => some "fast_forward_end"
  | _ => none

/-- Runs an action of an entity with its argument (null for an action without one); nothing for
an action the entity does not have. -/
def SpeakerEntity.perform (e : SpeakerEntity) (action : String) (arg : Value) :
    PolledSpeakerM Unit := do
  let s := (← get).home.speaker
  match e with
  | .mediaPlayer z =>
    match action with
    | "turn_on" => runCommand "power on" (setPower z true)
    | "turn_off" => runCommand "standby" (setPower z false)
    | "set_volume_level" => do
      let percent ← Exec.lift (fractionPercent arg)
      runCommand "volume" (setVolumePercent z percent)
    | "mute_volume" => runCommand "mute" (setMute z arg.truthy)
    | "select_source" => runCommand "input" (setInput z arg.display)
    | "select_sound_mode" => runCommand "sound program" (setSoundProgram z arg.display)
    | "set_repeat" =>
      match arg with
      | .str m =>
        if repeatModes.contains m then runCommand "repeat" (setRepeat m)
        else throw (.badValue s!"{arg.literal} is not a valid RepeatMode")
      | _ => throw (.badValue s!"{arg.literal} is not a valid RepeatMode")
    | "set_shuffle" => runCommand "shuffle" (setShuffle (if arg.truthy then "on" else "off"))
    | other =>
      match playbackOf other with
      | some command => runCommand "playback" (setPlayback command)
      | none => pure ()
  | .presetSelect z =>
    match s.state.presets.find? (fun o => arg.str? == some o.label) with
    | some o => runCommand "preset" (selectPreset z o.number)
    | none => throw (.hub .command s!"Unknown preset: {arg.display}")
  | .linkServerSelect z =>
    match s.state.linkOptions.find? (fun o => arg.str? == some o.label) with
    | some o => runCommand "link" (selectLinkServer z o.value)
    | none => throw (.hub .command s!"Unknown link server: {arg.display}")
  | .sleepSelect z => do
    let minutes ← Exec.lift arg.toInt
    runCommand "sleep timer" (setSleep z minutes)
  | .volumeNumber z => do
    let volume ← Exec.lift arg.toInt
    runCommand "volume" (setVolume z volume)
  | .unlinkButton => runCommand "unlink server" unlinkServer

/-- Redacted in diagnostics: device, system and group ids. -/
def speakerSecrets : List String := ["device_id", "system_id", "group_id"]

/-- The diagnostics of a speaker's entry. -/
def speakerDiagnostics (entry : ConfigEntry) (p : PolledSpeaker) : Value :=
  let s := p.home.speaker
  .obj [("config_entry", .obj [("entry_id", .str entry.entryId), ("title", entry.title),
      ("data", entry.data), ("options", entry.options)]),
    ("coordinator", .obj [("last_update_success", .bool p.coordinator.lastUpdateSuccess),
      ("keep_alive_running", .bool s.keepAliveRunning)]),
    ("device_info", redact speakerSecrets s.info.toValue), ("features", s.features.toValue),
    ("state", redact speakerSecrets s.toValue)]

end ConnectedHome.Speaker
