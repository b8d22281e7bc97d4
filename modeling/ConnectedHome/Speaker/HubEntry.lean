import ConnectedHome.Hub.Home
import ConnectedHome.Speaker.Entities
import ConnectedHome.Speaker.Listener
/-!
# A speaker as an entry of the hub

An entry of the speaker integration holds one speaker, addressed by the host in its data and
named by the entry's title.  Every speaker of the hub shares one event listener, made when the
first speaker is set up and bound to the event port (`SpeakerShared`).  The link servers a
speaker offers are the zones of every speaker entry of the hub (`knownSpeakers`).

Setting an entry up (`speakerSetupEntry`):

1. sets the speaker up through its coordinator; a failure means the entry is not ready yet;
2. starts the shared listener unless it runs already; when the port cannot be bound, the entry
   is not ready yet either;
3. from here on, unloading the entry releases the speaker, whatever happens next;
4. the speaker and its coordinator become the entry's runtime data, and the platforms are set
   up with its entities (`speakerPlatforms`);
5. the listener routes the speaker's events to the entry, and the speaker's keep-alive starts;
6. the entry's options are listened to.

Releasing a speaker (`releaseSpeaker`) stops routing its events and its keep-alive, and stops the
listener when no speaker is left.  Unloading an entry tears its platforms down; the release is
one of its unload hooks.  A changed option sets whether the speaker synchronises volumes, from
the options alone (`speakerOptionsUpdated`).  The coordinator refreshes the speaker of a set up
entry whenever it is asked to (`refreshSpeakerEntry`); while the speaker's id is unknown, that
sets it up again.
-/
namespace ConnectedHome.Speaker

open Hub

/-- The platforms of a speaker entry, in the order they are set up. -/
def speakerPlatformNames : List String := ["button", "media_player", "number", "select"]

/-- What all speaker entries share: the event listener, routing to entry ids, once it exists,
and the refusal the network gives when the listener binds its port, if it refuses. -/
structure SpeakerShared where
  listener : Option (Listener String) := none
  bindRefusal : Option Fault := none
deriving Inhabited

instance : Wired PolledSpeaker where
  outside p := p.home.outside
  rewire p o := { p with home := { p.home with outside := o } }

/-- The hub with speaker entries. -/
abbrev SpeakerHub := Home SpeakerShared PolledSpeaker

/-- Computations of the hub with speaker entries. -/
abbrev SpeakerHubM := HomeM SpeakerShared PolledSpeaker

/-- The label and host of every speaker entry, in the registry's order. -/
def knownSpeakers (r : Registry) : Except Fault (List (String × String)) :=
  (r.ofDomain speakerDomain).mapM fun e => do
    let host ← e.data.item "host"
    return (e.title.display, host.display)

/-- The entities of a speaker by platform, in the order the platforms are set up. -/
def speakerPlatforms (s : Device) : List (String × List SpeakerEntity) :=
  [("button", [.unlinkButton]), ("media_player", s.zoneIds.map .mediaPlayer),
   ("number", s.zoneIds.map .volumeNumber),
   ("select", s.zoneIds.flatMap fun z => [.presetSelect z, .linkServerSelect z, .sleepSelect z])]

/-- Runs a computation of the speaker of entry `id`, which knows the speakers of the hub. -/
def onSpeaker {α : Type} (id : String) (x : PolledSpeakerM α) : SpeakerHubM α := do
  let peers := knownSpeakers (← get).registry
  onRuntime id do
    modify fun p => { p with home := { p.home with speaker := { p.home.speaker with peers := some peers } } }
    x

/-- The shared listener, made now if there is none yet. -/
def sharedListener : SpeakerHubM (Listener String) := do
  let l := (← get).shared.listener.getD {}
  modifyShared fun sh => { sh with listener := some l }
  return l

/-- Changes the shared listener. -/
def modifyListener (f : Listener String → Listener String) : SpeakerHubM Unit :=
  modifyShared fun sh => { sh with listener := sh.listener.map f }

/-- Starts the shared listener unless it runs already. -/
def startListener : SpeakerHubM Unit := do
  let l ← sharedListener
  if l.running then return
  match (← get).shared.bindRefusal with
  | some f =>
    throw (.notReady s!"Unable to listen for MusicCast events on port {eventPort}: {f.message}" (some f))
  | none => modifyListener fun l => { l with running := true }

/-- Releases the speaker of entry `id`: its events are no longer routed and its keep-alive
stops; the listener stops with the last speaker. -/
def releaseSpeaker (id : String) : SpeakerHubM Unit := do
  match ← runtimeOf? id with
  | none => throw noRuntimeData
  | some p =>
    modifyListener (·.unregister p.home.speaker.deviceId)
    putRuntime id { p with home := { p.home with speaker := { p.home.speaker with keepAliveTask := p.home.speaker.keepAliveTask.stop } } }
    if let some l := (← get).shared.listener then
      if l.deviceIds.isEmpty then modifyListener fun l => { l with running := false }

/-- Sets a speaker entry up; see the module notes. -/
def speakerSetupEntry (e : ConfigEntry) : SpeakerHubM Bool := do
  let host ← Exec.lift (e.data.item "host")
  let h ← get
  let speaker : Device :=
    { name := e.title.display, syncVolume := e.setting "sync_volume" (.bool false),
      peers := some (knownSpeakers h.registry) }
  let p : PolledSpeaker := { home := { client := { host := host.display }, speaker, outside := h.outside } }
  let (r, p) := speakerUpdate.run' p
  set { h with outside := p.home.outside }
  match r with
  | .error f => throw (firstRefreshFault f)
  | .ok () => pure ()
  startListener
  addUnloadHook e.entryId .releaseDevice
  putRuntime e.entryId p
  let s := p.home.speaker
  for (platform, entities) in speakerPlatforms s do
    recordForwarded e.entryId platform (entities.map (·.uniqueId s.deviceId))
  modifyListener (·.register s.deviceId e.entryId)
  putRuntime e.entryId { p with home := { p.home with speaker := { s with keepAliveTask := s.keepAliveTask.start } } }
  listenToOptions e.entryId
  return true

/-- Unloads a speaker entry: its platforms are torn down. -/
def speakerUnloadEntry (e : ConfigEntry) : SpeakerHubM Bool := do
  recordUnloaded e.entryId speakerPlatformNames
  return true

/-- Tells the speaker of entry `id` whether to synchronise volumes after the options changed. -/
def speakerOptionsUpdated (id : String) : SpeakerHubM Unit := do
  let e ← knownEntry id
  match ← runtimeOf? id with
  | none => pure ()
  | some p =>
    let sync := (e.options.field? "sync_volume").getD (.bool false)
    putRuntime id { p with home := { p.home with speaker := { p.home.speaker with syncVolume := sync } } }

/-- The coordinator of entry `id` refreshes its speaker (`speakerUpdate`): whether the update
succeeded is recorded, and its failure goes no further. -/
def refreshSpeakerEntry (id : String) : SpeakerHubM Unit :=
  onRuntime id do
    let ok ← match ← Exec.attempt speakerUpdate with
      | .ok () => pure true
      | .error _ => pure false
    modify fun p => { p with coordinator := { p.coordinator with lastUpdateSuccess := ok } }

/-- The runtime data of a speaker entry as shown. -/
def speakerRuntimeValue (p : PolledSpeaker) : Value :=
  let s := p.home.speaker
  .obj [("update_interval", .null), ("last_update_success", .bool p.coordinator.lastUpdateSuccess),
    ("connected", .bool p.home.client.hasSession), ("device", s.toValue), ("sync_volume", s.syncVolume),
    ("keep_alive_running", .bool s.keepAliveRunning)]

/-- The shared listener as shown. -/
def listenerValue (l : Listener String) : Value :=
  .obj [("port", .int eventPort), ("device_ids", Value.ofStrings l.deviceIds), ("running", .bool l.running)]

theorem speakerPlatforms_names (s : Device) :
    (speakerPlatforms s).map (·.1) = speakerPlatformNames := rfl

end ConnectedHome.Speaker
