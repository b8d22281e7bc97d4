import ConnectedHome.Speaker.Client
import ConnectedHome.Speaker.Zone
import ConnectedHome.Text.Case
/-!
# What the hub knows about a speaker

A speaker (`Device`) has a display name, its device information and features as last read, and
what the hub knows of it (`SpeakerState`): per zone its power, mute, volume and maximum, input,
sound program, sleep timer and the link server chosen for it (`ZoneState`); the net/USB player
that all zones share (`PlayerState`); the presets that have a text and the current one; the link
servers it can join; and its role in a link.

Facts that nobody reported yet are unknown (`none`), not false: a zone's power is unknown until
a status or an event tells it.  A zone is known from the first time anything touches it
(`Device.touchZone`).

The speaker's id, used to route events and to name entities, is the device id of its
information, upper-cased, empty before the information is read (`Device.deviceId`).

A speaker runs against its client and the outside world (`SpeakerHome`, `SpeakerHomeM`).  Links
need fresh group ids; where they come from is part of the world (`SpeakerHome.newGroupId`).
-/
namespace ConnectedHome.Speaker

/-- The power reply of a zone that is on. -/
def powerOn : String := "on"

/-- The power reply of a zone in standby. -/
def powerStandby : String := "standby"

/-- The text between the host and the zone of a link server option. -/
def serverSeparator : String := "***"

/-- The option of not being linked. -/
def standalone : String := ""

/-- The label of the option of not being linked. -/
def standaloneLabel : String := "Standalone"

/-- What is known about one zone. -/
structure ZoneState where
  power : Option Bool := none
  mute : Option Bool := none
  volume : Whole := .int 0
  maxVolume : Whole := .int 0
  input : Option String := none
  soundProgram : Option String := none
  sleep : Whole := .int 0
  /-- The chosen link server option; empty when standalone. -/
  linkServer : Option String := none
deriving Inhabited

/-- The volume of the zone in percent of its maximum. -/
def ZoneState.volumePercent (z : ZoneState) : Int := volumeToPercent z.volume.toInt z.maxVolume.toInt

/-- The zone as shown. -/
def ZoneState.toValue (z : ZoneState) : Value :=
  .obj [("power", Value.ofBoolOption z.power), ("mute", Value.ofBoolOption z.mute),
    ("volume", z.volume.toValue), ("max_volume", z.maxVolume.toValue),
    ("input", Value.ofOption z.input), ("sound_program", Value.ofOption z.soundProgram),
    ("sleep", z.sleep.toValue),
    ("link_server", Value.ofOption z.linkServer)]

/-- What is known about the net/USB player. -/
structure PlayerState where
  state : Option String := none
  artist : String := ""
  track : String := ""
  album : String := ""
  albumartUrl : String := ""
  «repeat» : Option String := none
  shuffle : Option String := none
  playTime : Whole := .int 0
  totalTime : Whole := .int 0
deriving Inhabited

/-- The player as shown. -/
def PlayerState.toValue (p : PlayerState) : Value :=
  .obj [("state", Value.ofOption p.state), ("artist", .str p.artist), ("track", .str p.track),
    ("album", .str p.album), ("albumart_url", .str p.albumartUrl), ("repeat", Value.ofOption p.repeat),
    ("shuffle", Value.ofOption p.shuffle), ("play_time", p.playTime.toValue),
    ("total_time", p.totalTime.toValue)]

/-- A preset that can be chosen: its number, counted from one, and its label. -/
structure PresetOption where
  number : Nat
  label : String
deriving Inhabited

/-- A link server that can be joined: `<host>***<zone>` and its label. -/
structure LinkOption where
  value : String
  label : String
deriving Inhabited

/-- What the hub knows about a speaker. -/
structure SpeakerState where
  zones : List (String × ZoneState) := []
  player : PlayerState := {}
  presets : List PresetOption := []
  currentPreset : Int := 0
  linkOptions : List LinkOption := []
  role : Option String := none
deriving Inhabited

/-- Seconds before the first request to keep receiving events. -/
def keepAliveDelay : Nat := 5

/-- Seconds between the requests to keep receiving events. -/
def keepAliveInterval : Nat := 300

/-- How a run of the keep-alive loop went: the waits it began, in seconds, and how it ended. -/
structure KeepAliveRun where
  waits : List Nat := []
  /-- Whether the loop was cancelled during a wait. -/
  cancelled : Bool := false
  /-- The failure that ended the loop, if one did. -/
  failure : Option Fault := none

/-- The keep-alive task of a speaker. -/
inductive KeepAliveTask where
  /-- No task: none was started since the last stop. -/
  | absent
  /-- A task whose loop runs, with the waits it began in seconds, the last one under way. -/
  | running (waits : List Nat)
  /-- A task whose loop has ended by itself. -/
  | done
deriving Inhabited

namespace KeepAliveTask

/-- Whether the task's loop runs. -/
def isRunning : KeepAliveTask → Bool
  | .running _ => true
  | _ => false

/-- The task after a start: a running one is kept, else a new loop begins its first wait. -/
def start : KeepAliveTask → KeepAliveTask
  | .running waits => .running waits
  | _ => .running [keepAliveDelay]

/-- The task after a stop: a running one is cancelled, and no task is left. -/
def stop (_ : KeepAliveTask) : KeepAliveTask := .absent

end KeepAliveTask

/-- A speaker. -/
structure Device where
  name : String
  /-- Whether volume changes of a link server go to its clients: as set, read for its truth. -/
  syncVolume : Value := .bool false
  /-- The label and host of every speaker of the hub, or why they cannot be listed; none for
  this one alone. -/
  peers : Option (Except Fault (List (String × String))) := none
  info : Reply := Reply.empty deviceInfoSpecs
  features : Features := {}
  state : SpeakerState := {}
  keepAliveTask : KeepAliveTask := .absent
deriving Inhabited

namespace Device

/-- Whether the speaker's keep-alive loop runs. -/
def keepAliveRunning (s : Device) : Bool := s.keepAliveTask.isRunning

/-- The speaker's id: its device id upper-cased, empty before it is known. -/
def deviceId (s : Device) : String :=
  match s.info.get "device_id" with
  | .str id => Text.upper id
  | _ => ""

/-- The zones of the speaker. -/
def zoneIds (s : Device) : List String := s.features.zoneIds

/-- What is known about a zone; nothing for a zone not touched yet. -/
def zone (s : Device) (z : String) : ZoneState := ((s.state.zones.lookup z).getD {})

/-- The speaker with a zone known. -/
def touchZone (s : Device) (z : String) : Device :=
  if s.state.zones.any (·.1 == z) then s
  else { s with state := { s.state with zones := s.state.zones ++ [(z, {})] } }

/-- The speaker with a zone changed, known from now on. -/
def modifyZone (s : Device) (z : String) (f : ZoneState → ZoneState) : Device :=
  let s := s.touchZone z
  { s with state := { s.state with
      zones := s.state.zones.map fun (k, st) => if k == z then (k, f st) else (k, st) } }

/-- The speaker with the player changed. -/
def modifyPlayer (s : Device) (f : PlayerState → PlayerState) : Device :=
  { s with state := { s.state with player := f s.state.player } }

/-- The state as shown. -/
def toValue (s : Device) : Value :=
  .obj [("device_id", .str s.deviceId), ("model", s.info.get "model_name"),
    ("zones", .obj (s.state.zones.map fun (z, st) => (z, st.toValue))),
    ("player", s.state.player.toValue),
    ("presets", .list (s.state.presets.map fun p =>
      .obj [("number", .int p.number), ("label", .str p.label)])),
    ("current_preset", .int s.state.currentPreset),
    ("link_options", .list (s.state.linkOptions.map fun o =>
      .obj [("value", .str o.value), ("label", .str o.label)])),
    ("role", Value.ofOption s.state.role)]

end Device

/-- A speaker with its client and the outside world. -/
structure SpeakerHome where
  client : SpeakerClient
  speaker : Device
  outside : Outside
  /-- The group id a new link gets. -/
  newGroupId : String := ""
deriving Inhabited

/-- Computations of a speaker. -/
abbrev SpeakerHomeM := Exec SpeakerHome

/-- Runs a computation of the client. -/
def viaClient {α : Type} (x : SpeakerM α) : SpeakerHomeM α :=
  Exec.focus (fun h => ⟨h.client, h.outside⟩)
    (fun h w => { h with client := w.client, outside := w.outside }) x

/-- The speaker. -/
def speaker : SpeakerHomeM Device := do return (← get).speaker

/-- The speaker's host. -/
def speakerHost : SpeakerHomeM String := do return (← get).client.host

/-- Changes the speaker. -/
def modifySpeaker (f : Device → Device) : SpeakerHomeM Unit :=
  modify fun h => { h with speaker := f h.speaker }

theorem Device.zone_touchZone (s : Device) (z : String) : (s.touchZone z).zone z = s.zone z := by
  unfold touchZone zone
  split
  · rfl
  · rename_i h
    have : s.state.zones.lookup z = none := by
      rw [List.lookup_eq_none_iff]
      intro p hp
      rw [bne_iff_ne, ne_eq]
      intro heq
      apply h
      rw [List.any_eq_true]
      exact ⟨p, hp, by simp [heq]⟩
    simp [List.lookup_append, this]

end ConnectedHome.Speaker
