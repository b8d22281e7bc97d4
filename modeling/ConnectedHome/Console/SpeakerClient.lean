import ConnectedHome.Console.Steps
import ConnectedHome.Console.SpeakerReports
import ConnectedHome.Speaker.Client
/-!
# Console: a session with a speaker client

`speakerSessionAnswer` runs a speaker client through a list of calls against a scripted
network.  The client starts with the request's host and a session, unless the request says
otherwise.  Each call is answered with its result or fault, the requests it sent and whether
the client has a session after it.  A reply is shown with whether the speaker accepted the
request, the same way a reply read on its own is.
-/
namespace ConnectedHome.Console

open Speaker Speaker.SpeakerClient Http

/-- The speaker a call names; none for the client's own. -/
def hostArg (args : Value) : Option String :=
  match args.field? "host" with
  | none | some .null => none
  | some v => some (argText v)

/-- The call of a speaker client named `call` with arguments `args`; none for an unknown
call. -/
def speakerCall (call : String) (args : Value) : Option (SpeakerM Value) :=
  let owner := s!"MusicCastApiClient.{call}"
  let withArgs (names : List String) (k : List Value → SpeakerM Value) : SpeakerM Value := do
    k (← Exec.lift (argsOf owner names args))
  let unit (x : SpeakerM Unit) : SpeakerM Value := do x; return .null
  let zoned (name : String) (k : String → Value → SpeakerM Unit) : SpeakerM Value :=
    withArgs ["zone", name] fun vs => unit (k (argText (vs.headD .null)) (vs.getD 1 .null))
  let single (name : String) (k : Value → SpeakerM Unit) : SpeakerM Value :=
    withArgs [name] fun vs => unit (k (vs.headD .null))
  let host := hostArg args
  match call with
  | "get_status" => some <| withArgs ["zone"] fun vs =>
      replyShown <$> getStatus (argText (vs.headD .null)) host
  | "set_power" => some (zoned "power" setPower)
  | "set_mute" => some (zoned "mute" fun z m => setMute z m.truthy)
  | "set_volume" => some (zoned "volume" fun z v => setVolume z v host)
  | "set_input" => some (zoned "input" setInput)
  | "set_sound_program" => some (zoned "program" setSoundProgram)
  | "set_sleep" => some (zoned "minutes" setSleep)
  | "recall_scene" => some (zoned "scene" recallScene)
  | "recall_preset" => some (zoned "preset" recallPreset)
  | "get_preset_info" => some (presetsShown <$> getPresetInfo)
  | "get_recent_info" => some (recentShown <$> getRecentInfo)
  | "get_play_info" => some (replyShown <$> getPlayInfo)
  | "set_playback" => some (single "playback" setPlayback)
  | "set_repeat" => some (single "mode" setRepeat)
  | "set_shuffle" => some (single "mode" setShuffle)
  | "get_distribution_info" => some (distributionShown <$> getDistributionInfo host)
  | "set_server_info" => some (single "data" fun d => setServerInfo d host)
  | "set_client_info" => some (single "data" fun d => setClientInfo d host)
  | "start_distribution" => some (unit (startDistribution host))
  | "get_features" => some (featuresShown <$> getFeatures host)
  | "get_device_info" => some (replyShown <$> getDeviceInfo)
  | "keep_alive" => some (unit keepAlive)
  | "connect" => some (unit connect)
  | "disconnect" | "aexit" => some (unit disconnect)
  | "aenter" => some do
      connect
      return .obj [("client", .bool true), ("host", .str (← get).client.host)]
  | _ => none

/-- Runs one step of a speaker client session: its answer and the world after it. -/
def speakerStep (w : SpeakerWorld) (step : Value) : Value × SpeakerWorld :=
  let call := step.textOr "call" ""
  match speakerCall call (step.memberOr "args" (.obj [])) with
  | none => (unknownCall call, w)
  | some act =>
    let (r, w') := act.run' w
    let (sent, outside') := w'.outside.takeSent
    (.obj (outcomeMembers (r.map fun v => (v, [])) ++
        [("requests", .list (sent.map speakerRequestValue)), ("connected", .bool w'.client.hasSession)]),
     { w' with outside := outside' })

/-- Runs a session with a speaker client. -/
def speakerSessionAnswer (req : Value) : Value :=
  let shared := req.flagOr "session" true
  let w : SpeakerWorld :=
    { client := { host := argText (req.memberOr "host" (.str "")), hasSession := shared,
                  ownsSession := !shared },
      outside := { network := { routes := routesOf req } } }
  .obj [("steps", .list (runSteps speakerStep w (stepsOf req)))]

end ConnectedHome.Console
