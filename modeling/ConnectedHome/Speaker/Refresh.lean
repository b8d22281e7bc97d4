import ConnectedHome.Speaker.Device
/-!
# Reading a speaker

Setting a speaker up reads its device information and features, makes its zones known and
refreshes everything (`setup`); a refresh reads every zone, the presets, the player, the link
servers it can join and its link role (`refresh`).  Pushed events change what they report and
read again what they announce as changed (`processEvent`).

The reads do not all fail alike, because each is worth different things:

* a zone, the player and the link role keep what is known when the speaker refuses the read,
  but a speaker that cannot be reached fails the refresh;
* the presets keep what is known on any failure of the speaker;
* a speaker among the link servers whose features cannot be read is left out.

Presets without text cannot be chosen; the others are labelled `#<n> <text>` with their number
counted from one.  The current preset is the one an event names, else the last preset whose
text is the newest recent entry.  A speaker without a role in a link is standalone in every
zone.
-/
namespace ConnectedHome.Speaker

open SpeakerClient

/-- The role of a speaker that is in no link. -/
def roleNone : String := "none"

/-- The role of a link server. -/
def roleServer : String := "server"

/-- The role of a link client. -/
def roleClient : String := "client"

/-- A zone after a status read: power as reported when it is `on` or `standby`, the maximum
volume when one other than 0 is reported, everything else as reported. -/
def ZoneState.applyStatus (z : ZoneState) (r : Reply) : ZoneState :=
  let power := match r.text? "power" with
    | some "on" => some true
    | some "standby" => some false
    | _ => z.power
  let reportedMax := r.number "max_volume"
  { z with
    power, mute := some (r.flag "mute"), volume := r.number "volume",
    maxVolume := if reportedMax.toInt != 0 then reportedMax else z.maxVolume,
    input := r.text? "input", soundProgram := r.text? "sound_program", sleep := r.number "sleep" }

/-- A zone after the zone part of an event. -/
def ZoneState.applyEvent (z : ZoneState) (e : Reply) : ZoneState :=
  let power := match e.text? "power" with
    | some "on" => some true
    | some "standby" => some false
    | _ => z.power
  let mute := match e.text? "mute" with
    | some "true" => some true
    | some "false" => some false
    | _ => z.mute
  let input := match e.text? "input" with
    | some i => if i.isEmpty then z.input else some i
    | none => z.input
  let volume := if (e.number "volume").toInt != 0 then e.number "volume" else z.volume
  { z with power, mute, input, volume }

/-- The player after a player read; album art is addressed on the speaker's host. -/
def PlayerState.applyPlayInfo (host : String) (r : Reply) : PlayerState :=
  let art := (r.text? "albumart_url").getD ""
  { state := r.text? "playback", artist := (r.text? "artist").getD "",
    track := (r.text? "track").getD "", album := (r.text? "album").getD "",
    albumartUrl := if art.isEmpty then "" else s!"http://{host}{art}",
    «repeat» := r.text? "repeat", shuffle := r.text? "shuffle",
    playTime := r.number "play_time", totalTime := r.number "total_time" }

/-- The presets that can be chosen, numbered from `n`. -/
def presetOptions : Nat → List Preset → List PresetOption
  | _, [] => []
  | n, p :: ps =>
    if p.text.isEmpty then presetOptions (n + 1) ps
    else ⟨n, s!"#{n} {p.text}"⟩ :: presetOptions (n + 1) ps

/-- The number of the last preset with text `t`, 0 when there is none. -/
def presetNumberOf (ps : List Preset) (t : String) : Nat :=
  ((List.range ps.length).zip ps).foldl
    (fun cur (i, p) => if !p.text.isEmpty && p.text == t then i + 1 else cur) 0

/-- The link server options of the zones of one speaker. -/
def linkOptionsOf (label host : String) (zones : List String) : List LinkOption :=
  zones.map fun z => ⟨s!"{host}{serverSeparator}{z}", s!"{label} - {z} ({host})"⟩

/-- Runs a read; a failure that `keeps` says to keep going from ends it quietly. -/
def tolerating (keeps : Fault → Bool) (x : SpeakerHomeM Unit) : SpeakerHomeM Unit := do
  match ← Exec.attempt x with
  | .ok () => pure ()
  | .error f => if keeps f then pure () else throw f

/-- Reads the status of a zone; a refused read leaves the zone as it is. -/
def updateZone (z : String) : SpeakerHomeM Unit :=
  tolerating isRefusal do
    let status ← viaClient (getStatus z)
    modifySpeaker (·.modifyZone z (·.applyStatus status))

/-- Reads the presets and the current preset; `number` is a preset an event reported, 0 for
none. -/
def updatePresets (number : Int := 0) : SpeakerHomeM Unit :=
  tolerating Fault.isSpeaker do
    let info ← viaClient getPresetInfo
    let recent ← viaClient getRecentInfo
    let current : Int := presetNumberOf info.presets recent.lastInput
    modifySpeaker fun s => { s with state := { s.state with
      presets := presetOptions 1 info.presets,
      currentPreset := if number != 0 then number else current } }

/-- Reads the player. -/
def updatePlayer : SpeakerHomeM Unit :=
  tolerating isRefusal do
    let r ← viaClient getPlayInfo
    let host ← speakerHost
    modifySpeaker (·.modifyPlayer fun _ => PlayerState.applyPlayInfo host r)

/-- The link server options of the peers, skipping peers whose features cannot be read. -/
def peerLinkOptions : List (String × String) → SpeakerHomeM (List LinkOption)
  | [] => pure []
  | (label, host) :: rest => do
    let here ← match ← Exec.attempt (viaClient (getFeatures (some host))) with
      | .ok f => pure (linkOptionsOf label host f.zoneIds)
      | .error e => if e.isSpeaker then pure [] else throw e
    return here ++ (← peerLinkOptions rest)

/-- Reads the link servers the speaker can join: every zone of every peer, then standalone. -/
def updateLinkOptions : SpeakerHomeM Unit := do
  let s ← speaker
  let peers ← match s.peers with
    | some listed => Exec.lift listed
    | none => pure [(s.name, ← speakerHost)]
  let options ← peerLinkOptions peers
  modifySpeaker fun s => { s with state := { s.state with
    linkOptions := options ++ [⟨standalone, standaloneLabel⟩] } }

/-- Reads the speaker's link role; without a role every zone is standalone. -/
def updateLinkStatus : SpeakerHomeM Unit :=
  tolerating isRefusal do
    let d ← viaClient (getDistributionInfo none)
    let role := (d.reply.text? "role").getD ""
    modifySpeaker fun s => { s with state := { s.state with role := some role } }
    if role == roleNone then
      modifySpeaker fun s =>
        s.zoneIds.foldl (fun s z => s.modifyZone z fun st => { st with linkServer := some standalone }) s

/-- Reads every zone, the presets, the player, the link servers and the link role. -/
def refresh : SpeakerHomeM Unit := do
  for z in (← speaker).zoneIds do
    updateZone z
  updatePresets
  updatePlayer
  updateLinkOptions
  updateLinkStatus

/-- Reads the device information and features, makes the zones known and refreshes. -/
def setup : SpeakerHomeM Unit := do
  let info ← viaClient getDeviceInfo
  modifySpeaker fun s => { s with info }
  let features ← viaClient (getFeatures none)
  modifySpeaker fun s => { s with features }
  modifySpeaker fun s => s.zoneIds.foldl Device.touchZone s
  refresh

/-- Applies an event and reads again what it announces as changed. -/
def processEvent (e : SpeakerEvent) : SpeakerHomeM Unit := do
  for (z, part) in e.zones do
    modifySpeaker (·.modifyZone z (·.applyEvent part))
    if part.flag "status_updated" then updateZone z
  match e.player with
  | some p =>
    if p.presetNumber != 0 then updatePresets p.presetNumber
    if p.playInfoUpdated then updatePlayer
  | none => pure ()

theorem presetOptions_skip_empty (n : Nat) (ps : List Preset) :
    presetOptions n ({ text := "" } :: ps) = presetOptions (n + 1) ps := rfl

end ConnectedHome.Speaker
