import ConnectedHome.Console.Steps
import ConnectedHome.Speaker.Entities
/-!
# Console: a session with a speaker

`speakerDeviceAnswer` runs a speaker, and optionally its coordinator, through a list of calls
against a scripted network; a step may replace the routes from then on.  The speaker may start
with device information and features already read.  Each call is answered with its result or
fault, the requests it sent and the speaker's state after it: what the speaker knows, its zones,
host and volumes in percent, whether its keep-alive loop runs and, with a coordinator, whether
the coordinator has data.

The console's clock never moves on its own: a keep-alive task that was started waits for its
first delay, which the console cuts short at the next step, so the task has ended by then.
A link's new group id is shown as `<generated>`.
-/
namespace ConnectedHome.Console

open Speaker Hub

/-- The group id the console hands out for new links. -/
def generatedGroupId : String := "<generated>"

/-- The state of a speaker as shown. -/
def speakerStateValue (coordinated : Bool) (p : PolledSpeaker) : Value :=
  let s := p.home.speaker
  let base := match s.toValue with
    | .obj ms => ms
    | _ => []
  let coordinator : List (String × Value) :=
    if coordinated then [("coordinator_data_set", .bool p.coordinator.data.isSome)] else []
  .obj (base ++ [("zone_ids", Value.ofStrings s.zoneIds), ("host", .str p.home.client.host),
    ("volume_percent", .obj (s.state.zones.map fun (z, st) => (z, .int st.volumePercent))),
    ("keep_alive_running", .bool s.keepAliveRunning)] ++ coordinator)

/-- A named argument that must be there. -/
def speakerArg (args : Value) (k : String) : PolledSpeakerM Value := Exec.lift (args.item k)

/-- A named argument read as text. -/
def speakerTextArg (args : Value) (k : String) : PolledSpeakerM String := do
  return argText (← speakerArg args k)

/-- A named argument read as a whole number. -/
def speakerIntArg (args : Value) (k : String) : PolledSpeakerM Int := do
  Exec.lift (← speakerArg args k).toInt

/-- A keep-alive run as shown. -/
def keepAliveValue (r : KeepAliveRun) : Value :=
  .obj ([("sleeps", .list (r.waits.map fun (n : Nat) => Value.int n)), ("cancelled", .bool r.cancelled)] ++
    match r.failure with
    | some f => [("exception", f.toValue)]
    | none => [])

/-- Runs the action of the entity a request names. -/
def speakerEntityAction (args : Value) : PolledSpeakerM Value := do
  let s := (← get).home.speaker
  let id := args.textOr "unique_id" ""
  let action := args.textOr "action" ""
  match (speakerEntities s).find? (fun e => e.uniqueId s.deviceId == id) with
  | none => throw (.missingKey id)
  | some e =>
    let owner := s!"{e.className}.async_{action}"
    match e.actionParam action, args.field? "value" with
    | none, _ => throw (.noAttribute s!"'{e.className}' object has no attribute 'async_{action}'")
    | some (some param), none =>
      throw (.badType s!"{owner}() missing 1 required positional argument: '{param}'")
    | some none, some _ => throw (.badType s!"{owner}() takes 1 positional argument but 2 were given")
    | some _, value => do
      e.perform action (value.getD .null)
      return .null

/-- The call of a speaker session named `call`; none for an unknown call.  The coordinator's
calls exist only with a coordinator. -/
def speakerDeviceCall (coordinated : Bool) (call : String) (args : Value) :
    Option (PolledSpeakerM Value) :=
  let unit (x : SpeakerHomeM Unit) : PolledSpeakerM Value := do viaHome x; return .null
  let zoned (k : String → PolledSpeakerM (SpeakerHomeM Unit)) : PolledSpeakerM Value := do
    let z ← speakerTextArg args "zone"
    unit (← k z)
  let event : PolledSpeakerM SpeakerEvent := do
    Exec.lift (SpeakerEvent.read (← speakerArg args "message"))
  let device : Option (PolledSpeakerM Value) := match call with
    | "setup" => some (unit setup)
    | "refresh" => some (unit refresh)
    | "update_zone" => some (zoned fun z => pure (updateZone z))
    | "update_presets" => some do
        let n ← Exec.lift (args.memberOr "preset_number" (.int 0)).toInt
        unit (updatePresets n)
    | "update_player" => some (unit updatePlayer)
    | "update_link_options" => some (unit updateLinkOptions)
    | "update_link_status" => some (unit updateLinkStatus)
    | "event" => some do unit (processEvent (← event))
    | "set_power" => some (zoned fun z => do return setPower z (← speakerArg args "on").truthy)
    | "set_mute" => some (zoned fun z => do return setMute z (← speakerArg args "mute").truthy)
    | "set_volume_percent" => some (zoned fun z => do
        return setVolumePercent z (← speakerIntArg args "percent"))
    | "set_volume" => some (zoned fun z => do return setVolume z (← speakerIntArg args "volume"))
    | "set_input" => some (zoned fun z => do return setInput z (← speakerTextArg args "input"))
    | "set_sound_program" => some (zoned fun z => do
        return setSoundProgram z (← speakerTextArg args "program"))
    | "select_preset" => some (zoned fun z => do return selectPreset z (← speakerIntArg args "number"))
    | "set_sleep" => some (zoned fun z => do return setSleep z (← speakerIntArg args "minutes"))
    | "recall_scene" => some (zoned fun z => do return recallScene z (← speakerIntArg args "scene"))
    | "set_playback" => some do unit (setPlayback (← speakerTextArg args "playback"))
    | "set_repeat" => some do unit (setRepeat (← speakerTextArg args "mode"))
    | "set_shuffle" => some do unit (setShuffle (← speakerTextArg args "mode"))
    | "select_link_server" => some (zoned fun z => do
        return selectLinkServer z (← speakerTextArg args "option"))
    | "link" => some do unit (link (← speakerTextArg args "option"))
    | "unlink" => some (unit unlink)
    | "unlink_server" => some (unit unlinkServer)
    | "start_keep_alive" => some (unit startKeepAlive)
    | "stop_keep_alive" => some (unit stopKeepAlive)
    | "run_keep_alive" => some do
        let n ← speakerIntArg args "sleeps"
        keepAliveValue <$> viaHome (runKeepAlive n.toNat)
    | _ => none
  let coordination : Option (PolledSpeakerM Value) := match call with
    | "coord_update" => some do speakerUpdate; return .null
    | "coord_event" => some do speakerEvent (← event); return .null
    | "entities" => some do
        let views ← viaHome readEntities
        return .list (views.map EntityView.toValue)
    | "entity_action" => some (speakerEntityAction args)
    | "diagnostics" => some do
        let entry := ConfigEntry.ofValue speakerDomain
          (args.memberOr "entry" (.obj [("entry_id", .str "entry1")]))
        return speakerDiagnostics entry (← get)
    | _ => none
  match device with
  | some act => some act
  | none => if coordinated then coordination else none

/-- The speaker after the console's idle time: a running keep-alive task has ended. -/
def settleKeepAlive (p : PolledSpeaker) : PolledSpeaker :=
  let task := match p.home.speaker.keepAliveTask with
    | .running _ => .done
    | t => t
  { p with home := { p.home with speaker := { p.home.speaker with keepAliveTask := task } } }

/-- Runs one step of a speaker session. -/
def speakerDeviceStep (coordinated : Bool) (p : PolledSpeaker) (step : Value) : Value × PolledSpeaker :=
  let call := step.textOr "call" ""
  let p := settleKeepAlive p
  let p := match step.field? "routes" with
    | some _ => { p with home := { p.home with outside := p.home.outside.withRoutes (routesOf step) } }
    | none => p
  match speakerDeviceCall coordinated call (step.memberOr "args" (.obj [])) with
  | none => (unknownCall call, p)
  | some act =>
    let (r, p') := act.run' p
    let (sent, outside') := p'.home.outside.takeSent
    (.obj (outcomeMembers (r.map fun v => (v, [])) ++
        [("requests", .list (sent.map speakerRequestValue)),
         ("state", speakerStateValue coordinated p')]),
     { p' with home := { p'.home with outside := outside' } })

/-- The peers a request lists: pairs of a label and a host; null for the speaker alone. -/
def peersOf (req : Value) : Option (List (String × String)) :=
  match req.field? "peers" with
  | some (.list ps) => some (ps.filterMap fun
      | .list [label, host] => some (argText label, argText host)
      | _ => none)
  | _ => none

/-- Runs a session with a speaker. -/
def speakerDeviceAnswer (req : Value) : Value :=
  let start : Except Fault Device := do
    let info ← match req.field? "info" with
      | some raw => Reply.read deviceInfoSpecs raw
      | none => pure (Reply.empty deviceInfoSpecs)
    let features ← match req.field? "features" with
      | some raw => Features.read raw
      | none => pure {}
    return { name := argText (req.memberOr "name" (.str "")),
             syncVolume := req.memberOr "sync_volume" (.bool false), peers := (peersOf req).map .ok,
             info, features }
  match start with
  | .error f => f.toValue
  | .ok s =>
    let p : PolledSpeaker :=
      { home := { client := { host := argText (req.memberOr "host" (.str "")) }, speaker := s,
                  outside := { network := { routes := routesOf req } },
                  newGroupId := generatedGroupId } }
    let coordinated := req.flagOr "coordinator" false
    .obj [("steps", .list (runSteps (speakerDeviceStep coordinated) p (stepsOf req)))]

end ConnectedHome.Console
