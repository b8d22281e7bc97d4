import ConnectedHome.Speaker.Flows
import ConnectedHome.Hub.Integration
/-!
# The speaker integration in the hub

The configuration file may list speakers (`speakerConfigValidator`): every one with its host,
optionally a name, and whether volumes are synchronised (read leniently, no by default).  Other
sections of the file are left alone.

Setting the integration up (`speakerSetup`) checks the file, registers the `recall_scene`
service once and starts an import flow for every speaker listed.

The service (`handleSpeakerService`) recalls a scene, 1 to 8, in a zone (the main zone by
default) of the loaded speaker with the given host.  It names a speaker the hub does not have
or a zone the speaker does not have as a refusal of its own; a failure of the speaker is a
failed command.

Packets reach the shared listener, which is made if there is none yet (`speakerPacket`); an
event routed to an entry is applied by the entry's coordinator before the step ends, and a
failure while doing so is only logged.
-/
namespace ConnectedHome.Speaker

open Hub

/-- The keys of a speaker in the configuration file. -/
def speakerKeys : List (SchemaKey × Validator) :=
  [({ name := "host", required := true }, .text), ({ name := "name", required := false }, .text),
   ({ name := "sync_volume", required := false, default := some (.bool false) }, .boolean)]

/-- What the configuration file may say about the integration. -/
def speakerConfigValidator : Validator :=
  .object [({ name := speakerDomain, required := false },
    .object [({ name := "devices", required := false, default := some (.list []) },
      .listOf (.object speakerKeys false))] false)] true

/-- The service that recalls a scene. -/
def recallSceneService : String := "recall_scene"

/-- The fields of a call of the scene service. -/
def recallSceneFields : FormFields :=
  [({ name := "host", required := true }, .text),
   ({ name := "zone", required := false, default := some (.str mainZone) }, .oneOf allZones),
   ({ name := "scene", required := true }, .all [.wholeNumber, .range (some 1) (some 8)])]

/-- Sets the integration up from the configuration file `config`. -/
def speakerSetup (config : Value) : SpeakerHubM Bool := do
  let config ← Exec.lift (speakerConfigValidator.validate config)
  registerService s!"{speakerDomain}.{recallSceneService}"
  match config.field? speakerDomain with
  | none => return true
  | some part =>
    let devices := match part.fieldD "devices" with
      | .list ds => ds
      | _ => []
    for d in devices do
      startConfigFlow speakerDomain (.obj [("source", .str "import")]) d speakerImportStep
    return true

/-- The loaded speaker entry with host `host`, first in the registry's order. -/
def loadedSpeakerAt (h : SpeakerHub) (host : String) : Option (String × PolledSpeaker) :=
  h.registry.entries.findSome? fun e =>
    if e.domain == speakerDomain && e.state == .loaded then
      match h.runtime.lookup e.entryId with
      | some p => if p.home.client.host == host then some (e.entryId, p) else none
      | none => none
    else none

/-- Recalls the scene a call of the scene service names. -/
def recallSceneCall (data : Value) : SpeakerHubM Unit := do
  let data ← Exec.lift ((formValidator recallSceneFields).validate data)
  let host := (data.fieldD "host").display
  let zone := (data.fieldD "zone").display
  let scene ← Exec.lift (data.fieldD "scene").toInt
  match loadedSpeakerAt (← get) host with
  | none => throw (.hub .serviceValidation s!"MusicCast device {host} not found")
  | some (id, p) =>
    if !p.home.speaker.zoneIds.contains zone then
      throw (.hub .serviceValidation s!"MusicCast device {host} has no zone {zone}")
    onSpeaker id (runCommand "recall scene" (recallScene zone scene))

/-- Hands the packet `bytes` to the shared listener. -/
def speakerPacket (bytes : List UInt8) : SpeakerHubM Unit := do
  let l ← sharedListener
  match ← Exec.lift (l.route bytes) with
  | none => pure ()
  | some (id, event) => discard (Exec.attempt (onSpeaker id (speakerEvent event)))

/-- Handles a call of service `service` with `data`. -/
def handleSpeakerService (service : String) (data : Value) : SpeakerHubM Unit :=
  if service == recallSceneService then recallSceneCall data
  else throw (.hub .serviceNotFound s!"Service {speakerDomain}.{service} not found.")

/-- The speaker integration. -/
def speakerIntegration : Integration SpeakerShared PolledSpeaker where
  domain := speakerDomain
  configFlowName := "MusicCastConfigFlow"
  optionsFlowName := "MusicCastOptionsFlowHandler"
  setup := speakerSetup
  setupEntry := speakerSetupEntry
  unloadEntry := speakerUnloadEntry
  release := releaseSpeaker
  optionsUpdated := speakerOptionsUpdated
  configStep := speakerConfigStep
  optionsStep := speakerOptionsStep
  handleService := handleSpeakerService
  packet := speakerPacket
  runtimeValue := speakerRuntimeValue
  sharedMembers sh := match sh.listener with
    | some l => [("listener", listenerValue l)]
    | none => []

theorem recallSceneFields_keys : recallSceneFields.map (·.1.name) = ["host", "zone", "scene"] := rfl

end ConnectedHome.Speaker
