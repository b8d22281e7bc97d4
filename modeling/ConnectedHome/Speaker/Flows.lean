import ConnectedHome.Hub.FlowRun
import ConnectedHome.Speaker.HubEntry
/-!
# Configuring a speaker

The configuration flow of the speaker integration (`speakerConfigStep`):

* `user` asks for the host, optionally a name, and whether volumes are synchronised (no by
  default).  It reads the speaker's device information, which must report a device id
  (`deviceInfoAt`); an unreachable speaker shows `cannot_connect`, any other failure of the
  speaker `unknown`.  The host is the entry's unique id; the title is the name, else the
  speaker's model, else the host.
* `import` takes a speaker from the configuration file as it is: the host is the unique id and
  the name, or the host, the title.  Nothing is read from the speaker.

The options flow asks whether volumes are synchronised, the options' answer, else the data's,
offered (`speakerOptionsStep`).
-/
namespace ConnectedHome.Speaker

open Hub

/-- Computations of a speaker flow. -/
abbrev SpeakerFlowM := FlowM SpeakerShared PolledSpeaker

/-- The fields of the speaker form. -/
def speakerUserFields : FormFields :=
  [({ name := "host", required := true }, .text), ({ name := "name", required := false }, .text),
   ({ name := "sync_volume", required := false, default := some (.bool false) }, .exactBool)]

/-- The fields of the options form of an entry. -/
def speakerOptionsFields (e : ConfigEntry) : FormFields :=
  [({ name := "sync_volume", required := false, default := some (e.setting "sync_volume" (.bool false)) },
    .exactBool)]

/-- The device information of the speaker at `host`, which must report a device id. -/
def deviceInfoAt (host : String) : SpeakerFlowM Reply := do
  let info ← flowOutside (Exec.focus (fun o => (⟨{ host }, o⟩ : SpeakerWorld)) (fun _ w => w.outside) SpeakerClient.getDeviceInfo)
  if !(info.get "device_id").truthy then
    throw (.speaker .general s!"{host} did not report a device id")
  return info

/-- The speaker form with the errors of the last attempt. -/
def speakerForm (errors : List (String × String)) : FlowResult :=
  .form "user" speakerUserFields (some errors)

/-- The `user` step. -/
def speakerUserStep (input : Value) : SpeakerFlowM FlowResult := do
  if input.isNull then return speakerForm []
  let host ← Exec.lift (input.item "host")
  match ← Exec.attempt (deviceInfoAt host.display) with
  | .ok info =>
    chooseUniqueId host
    if ← uniqueIdTaken then return .abort "already_configured"
    return .createEntry ((input.fieldD "name").orElse ((info.get "model_name").orElse host)) input
  | .error f =>
    match f with
    | .speaker .connection _ => return speakerForm [("base", "cannot_connect")]
    | .speaker _ _ => return speakerForm [("base", "unknown")]
    | _ => throw f

/-- The `import` step. -/
def speakerImportStep (data : Value) : SpeakerFlowM FlowResult := do
  let host ← Exec.lift (data.item "host")
  chooseUniqueId host
  if ← uniqueIdTaken then return .abort "already_configured"
  return .createEntry ((data.fieldD "name").orElse host) data

/-- The step of the configuration flow named `step`; none for a step the flow does not have. -/
def speakerConfigStep (step : String) : Option (Value → SpeakerFlowM FlowResult) :=
  match step with
  | "user" => some speakerUserStep
  | "import" => some speakerImportStep
  | _ => none

/-- The `init` step of the options flow. -/
def speakerOptionsInit (input : Value) : SpeakerFlowM FlowResult := do
  if !input.isNull then return .createEntry (.str "") input
  let e ← viaHub (knownEntry (← currentFlow).handler)
  return .form "init" (speakerOptionsFields e) none

/-- The step of the options flow named `step`. -/
def speakerOptionsStep (step : String) : Option (Value → SpeakerFlowM FlowResult) :=
  match step with
  | "init" => some speakerOptionsInit
  | _ => none

theorem speakerForm_step (errors : List (String × String)) :
    speakerForm errors = .form "user" speakerUserFields (some errors) := rfl

end ConnectedHome.Speaker
