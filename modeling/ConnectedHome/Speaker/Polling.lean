import ConnectedHome.Speaker.Commands
import ConnectedHome.Hub.Coordinator
/-!
# A speaker under a coordinator

Speakers push their changes, so their coordinator does not poll (`PolledSpeaker`): its data is
the speaker's state as last published.  An update sets the speaker up while its id is unknown
and refreshes it afterwards (`speakerUpdate`); a failure of the speaker is a failed update.

Events are applied as they come (`speakerEvent`); a failure of the speaker while doing so is
only logged, and the state is published either way.  Commands run through the coordinator too
(`runCommand`): a failure of the speaker is a failed command named after it, and an accepted
command publishes the new state.
-/
namespace ConnectedHome.Speaker

open Hub

/-- A speaker with its coordinator. -/
structure PolledSpeaker where
  home : SpeakerHome
  coordinator : Coordinator Value := {}
deriving Inhabited

/-- Computations of a speaker under a coordinator. -/
abbrev PolledSpeakerM := Exec PolledSpeaker

/-- Runs a computation of the speaker. -/
def viaHome {α : Type} (x : SpeakerHomeM α) : PolledSpeakerM α :=
  Exec.focus (·.home) (fun p h => { p with home := h }) x

/-- Publishes the speaker's state as the coordinator's data. -/
def publish : PolledSpeakerM Unit :=
  modify fun p => { p with coordinator := { p.coordinator with data := some p.home.speaker.toValue } }

/-- Sets the speaker up, or refreshes it once it is known, and publishes its state. -/
def speakerUpdate : PolledSpeakerM Unit := do
  let known := !(← get).home.speaker.deviceId.isEmpty
  match ← Exec.attempt (viaHome (if known then refresh else setup)) with
  | .ok () => publish
  | .error f =>
    if f.isSpeaker then throw (.hub .updateFailed s!"MusicCast update failed: {f.message}")
    else throw f

/-- Applies a pushed event and publishes the state. -/
def speakerEvent (e : SpeakerEvent) : PolledSpeakerM Unit := do
  match ← Exec.attempt (viaHome (processEvent e)) with
  | .ok () => publish
  | .error f => if f.isSpeaker then publish else throw f

/-- Runs a command named `name` and publishes the state. -/
def runCommand (name : String) (act : SpeakerHomeM Unit) : PolledSpeakerM Unit := do
  match ← Exec.attempt (viaHome act) with
  | .ok () => publish
  | .error f =>
    if f.isSpeaker then throw (.hub .command s!"MusicCast {name} failed: {f.message}") else throw f

theorem publish_data (p : PolledSpeaker) :
    (publish.run' p).2.coordinator.data = some p.home.speaker.toValue := rfl

end ConnectedHome.Speaker
