import ConnectedHome.Speaker.Refresh
/-!
# Commanding a speaker

Each command sends its request and, once the speaker accepted it, records what it changed
(`setPower`, `setInput`, …).  Volumes are set in the speaker's steps or in percent of the zone's
maximum; when the speaker serves a link and its volume is synchronised, the same percentage goes
to every zone of every client (`syncVolume`).

Links (`link`) join a zone of a server: the option names the server's host and zone around
`***`.  The group is the server's own when it serves a link already, none when it is a client,
and a new one otherwise.  The server learns its new client, the speaker learns its group with
all its zones, and the server starts distributing.  Leaving a link clears the speaker's group
(`unlink`); dissolving one clears the server's (`unlinkServer`).

The speaker asks to keep receiving events periodically (`runKeepAlive`): after a first wait of
`keepAliveDelay` seconds and then every `keepAliveInterval` seconds.  A failure of the speaker
is only logged; any other failure ends the loop.  The loop runs as the speaker's keep-alive task
(`KeepAliveTask`): a start begins one unless one runs, a stop cancels and drops it, and each
wait that ends runs one round of its loop (`keepAliveWake`).
-/
namespace ConnectedHome.Speaker

open SpeakerClient

/-- Switches a zone on or to standby. -/
def setPower (z : String) (on : Bool) : SpeakerHomeM Unit := do
  viaClient (SpeakerClient.setPower z (.str (if on then powerOn else powerStandby)))
  modifySpeaker (·.modifyZone z fun st => { st with power := some on })

/-- Mutes or unmutes a zone. -/
def setMute (z : String) (mute : Bool) : SpeakerHomeM Unit := do
  viaClient (SpeakerClient.setMute z mute)
  modifySpeaker (·.modifyZone z fun st => { st with mute := some mute })

/-- Sends a volume in percent to every zone of every client, when the speaker synchronises
volumes and serves a link; the role read on the way is kept. -/
def syncVolume (percent : Int) : SpeakerHomeM Unit := do
  if !(← speaker).syncVolume.truthy then return
  let d ← viaClient (getDistributionInfo none)
  let role := (d.reply.text? "role").getD ""
  modifySpeaker fun s => { s with state := { s.state with role := some role } }
  if role != roleServer then return
  for client in d.clients do
    let f ← viaClient (getFeatures (some client))
    for z in f.zoneIds do
      let status ← viaClient (getStatus z (some client))
      viaClient (SpeakerClient.setVolume z (.int (percentToVolume percent (status.whole "max_volume")))
        (some client))

/-- Sets the volume of a zone in percent of its maximum. -/
def setVolumePercent (z : String) (percent : Int) : SpeakerHomeM Unit := do
  modifySpeaker (·.touchZone z)
  let volume := percentToVolume percent ((← speaker).zone z).maxVolume.toInt
  viaClient (SpeakerClient.setVolume z (.int volume))
  modifySpeaker (·.modifyZone z fun st => { st with volume := .int volume })
  syncVolume percent

/-- Sets the volume of a zone in the speaker's steps. -/
def setVolume (z : String) (volume : Int) : SpeakerHomeM Unit := do
  modifySpeaker (·.touchZone z)
  viaClient (SpeakerClient.setVolume z (.int volume))
  modifySpeaker (·.modifyZone z fun st => { st with volume := .int volume })
  syncVolume (volumeToPercent volume ((← speaker).zone z).maxVolume.toInt)

/-- Selects the input of a zone. -/
def setInput (z input : String) : SpeakerHomeM Unit := do
  viaClient (SpeakerClient.setInput z (.str input))
  modifySpeaker (·.modifyZone z fun st => { st with input := some input })

/-- Selects the sound program of a zone. -/
def setSoundProgram (z program : String) : SpeakerHomeM Unit := do
  viaClient (SpeakerClient.setSoundProgram z (.str program))
  modifySpeaker (·.modifyZone z fun st => { st with soundProgram := some program })

/-- Recalls a preset in a zone; it becomes the current preset. -/
def selectPreset (z : String) (number : Int) : SpeakerHomeM Unit := do
  viaClient (recallPreset z (.int number))
  modifySpeaker fun s => { s with state := { s.state with currentPreset := number } }

/-- Sets the sleep timer of a zone. -/
def setSleep (z : String) (minutes : Int) : SpeakerHomeM Unit := do
  viaClient (SpeakerClient.setSleep z (.int minutes))
  modifySpeaker (·.modifyZone z fun st => { st with sleep := .int minutes })

/-- Recalls a scene in a zone. -/
def recallScene (z : String) (scene : Int) : SpeakerHomeM Unit :=
  viaClient (SpeakerClient.recallScene z (.int scene))

/-- Sends a command to the player. -/
def setPlayback (playback : String) : SpeakerHomeM Unit :=
  viaClient (SpeakerClient.setPlayback (.str playback))

/-- Sets the repeat mode of the player. -/
def setRepeat (mode : String) : SpeakerHomeM Unit := do
  viaClient (SpeakerClient.setRepeat (.str mode))
  modifySpeaker (·.modifyPlayer fun p => { p with «repeat» := some mode })

/-- Sets the shuffle mode of the player. -/
def setShuffle (mode : String) : SpeakerHomeM Unit := do
  viaClient (SpeakerClient.setShuffle (.str mode))
  modifySpeaker (·.modifyPlayer fun p => { p with shuffle := some mode })

/-- The characters before and after the first occurrence of `sep`, if it occurs. -/
def partitionAt (sep : List Char) : List Char → Option (List Char × List Char)
  | [] => if sep.isEmpty then some ([], []) else none
  | c :: cs =>
    if sep.isPrefixOf (c :: cs) then some ([], (c :: cs).drop sep.length)
    else (partitionAt sep cs).map fun (a, b) => (c :: a, b)

/-- The server host and zone a link option names, split at the first `***`; none unless both
are there. -/
def linkTarget (option : String) : Option (String × String) :=
  match partitionAt serverSeparator.toList option.toList with
  | some (server, zone) =>
    if server.isEmpty || zone.isEmpty then none else some (String.ofList server, String.ofList zone)
  | none => none

/-- Joins the link of the server zone an option names. -/
def link (option : String) : SpeakerHomeM Unit := do
  let some (server, serverZone) := linkTarget option
    | throw (.badValue s!"Invalid link server: {option}")
  let d ← viaClient (getDistributionInfo (some server))
  let role := (d.reply.text? "role").getD ""
  let fresh := (← get).newGroupId
  let groupId : Value :=
    if role == roleServer then d.reply.get "group_id"
    else if role == roleClient then .str ""
    else .str fresh
  let host ← speakerHost
  let zones := (← speaker).zoneIds
  viaClient (setServerInfo (.obj [("group_id", groupId), ("zone", .str serverZone),
    ("type", .str "add"), ("client_list", .list [.str host])]) (some server))
  viaClient (setClientInfo (.obj [("group_id", groupId),
    ("zone", Value.ofStrings (if zones.isEmpty then [mainZone] else zones))]) (some host))
  viaClient (startDistribution (some server))

/-- Leaves the link the speaker is a client of. -/
def unlink : SpeakerHomeM Unit := do
  viaClient (setClientInfo (.obj [("group_id", .str "")]) (some (← speakerHost)))

/-- Dissolves the link the speaker serves. -/
def unlinkServer : SpeakerHomeM Unit := do
  viaClient (setServerInfo (.obj [("group_id", .str "")]) (some (← speakerHost)))

/-- Joins a link server, or leaves any link for the standalone option; the zone records the
choice once it succeeded. -/
def selectLinkServer (z option : String) : SpeakerHomeM Unit := do
  if option == standalone then unlink else link option
  modifySpeaker (·.modifyZone z fun st => { st with linkServer := some option })

/-- One round of the keep-alive loop once its wait ended: the request, and the failure that ends
the loop, if one does.  A failure of the speaker is only logged. -/
def keepAliveRound : SpeakerHomeM (Option Fault) := do
  match ← Exec.attempt (viaClient keepAlive) with
  | .error f => if f.isSpeaker then return none else return some f
  | .ok () => return none

/-- Runs the keep-alive loop that began `waits` while `budget` more waits end; the wait after them
is cancelled. -/
def keepAliveLoop : Nat → List Nat → SpeakerHomeM KeepAliveRun
  | 0, waits => pure { waits, cancelled := true }
  | budget + 1, waits => do
    match ← keepAliveRound with
    | some f => return { waits, failure := some f }
    | none => keepAliveLoop budget (waits ++ [keepAliveInterval])

/-- Runs the keep-alive loop with `waits` waits that end; the next one is cancelled. -/
def runKeepAlive (waits : Nat) : SpeakerHomeM KeepAliveRun := keepAliveLoop waits [keepAliveDelay]

/-- Starts the keep-alive task unless one runs. -/
def startKeepAlive : SpeakerHomeM Unit :=
  modifySpeaker fun s => { s with keepAliveTask := s.keepAliveTask.start }

/-- Cancels the keep-alive task and drops it. -/
def stopKeepAlive : SpeakerHomeM Unit :=
  modifySpeaker fun s => { s with keepAliveTask := s.keepAliveTask.stop }

/-- The wait of the running keep-alive task ends: the task runs one round of its loop, and is done
when that round ended the loop. -/
def keepAliveWake : SpeakerHomeM Unit := do
  match (← speaker).keepAliveTask with
  | .running waits =>
    match ← keepAliveRound with
    | some _ => modifySpeaker fun s => { s with keepAliveTask := .done }
    | none => modifySpeaker fun s => { s with keepAliveTask := .running (waits ++ [keepAliveInterval]) }
  | _ => pure ()

end ConnectedHome.Speaker
