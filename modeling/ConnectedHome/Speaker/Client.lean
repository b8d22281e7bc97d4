import ConnectedHome.Outside
import ConnectedHome.Speaker.Reports
import ConnectedHome.Document.Reader
import ConnectedHome.Text.Blank
/-!
# The speaker control client

A speaker is controlled over plain requests to `http://<host>/YamahaExtendedControl/<version>/`
followed by a path such as `main/setPower`; arguments go into the query, and the calls that set
up a link send a document instead, which makes them posts.  The client holds the speaker's
host and whether it has a session to send requests through (`SpeakerClient`); every call may
name another host, because a link involves several speakers.

What comes back is judged in this order (`judgeAnswer`):

1. a timeout, a refused connection or an error status (400 and above) is a connection failure;
2. an empty body is no document, a body that cannot be read is a refused request;
3. anything but an object is a refused request;
4. a response code other than `0` (read as text, so `0.0` is not accepted) is a refused request
   that carries the code.

Refusals without a code of the speaker carry the empty code.
-/
namespace ConnectedHome.Speaker

open Http

/-- The seconds an ordinary request may take. -/
def shortTimeout : Nat := 5

/-- The seconds a request to the player, about a link or for the features may take. -/
def longTimeout : Nat := 60

/-- The first segment of every control path. -/
def controlBase : String := "YamahaExtendedControl"

/-- The application name under which the hub asks a speaker to push its events. -/
def appName : String := "MusicCast/1"

/-- The port the hub receives pushed events on. -/
def eventPort : Nat := 41100

/-- The client of one speaker. -/
structure SpeakerClient where
  host : String
  /-- Whether the client has a session to send requests through. -/
  hasSession : Bool := true
  /-- Whether the client opened its session itself. -/
  ownsSession : Bool := false
deriving Inhabited

/-- The client and the outside world it runs against. -/
structure SpeakerWorld where
  client : SpeakerClient
  outside : Outside
deriving Inhabited

/-- Computations of a speaker client. -/
abbrev SpeakerM := Exec SpeakerWorld

/-- What a call asks of a speaker. -/
structure SpeakerRequest where
  path : String
  /-- The speaker asked; none or empty for the client's own. -/
  host : Option String := none
  params : List (String × Value) := []
  /-- A document to send; a request with one is a post. -/
  document : Option Value := none
  /-- Whether the request may take the long timeout. -/
  long : Bool := false
  headers : Option (List (String × String)) := none
  version : String := "v1"
deriving Inhabited

/-- The host a request goes to when the client's own host is `own`. -/
def SpeakerRequest.target (r : SpeakerRequest) (own : String) : String :=
  match r.host with
  | some h => if h.isEmpty then own else h
  | none => own

/-- The written address of a request; each query value is the text it stands for. -/
def SpeakerRequest.address (r : SpeakerRequest) (own : String) : Except Fault String := do
  let u ← Net.Url.build "http" (r.target own) s!"/{controlBase}/{r.version}/{r.path}"
  let u := if r.params.isEmpty then u else u.withQuery (r.params.map fun (k, v) => (k, v.display))
  return u.text

/-- The method of a request: a post when it sends a document. -/
def SpeakerRequest.method (r : SpeakerRequest) : String :=
  if r.document.isSome then "POST" else "GET"

/-- The seconds a request may take. -/
def SpeakerRequest.timeout (r : SpeakerRequest) : Nat :=
  if r.long then longTimeout else shortTimeout

/-- A speaker that could not be reached. -/
def connectionFault (msg : String) : Fault := .speaker .connection msg

/-- A request the speaker refused, with its response code. -/
def refusal (code msg : String) : Fault := .speaker (.api code) msg

/-- Whether a fault is a request the speaker refused. -/
def isRefusal : Fault → Bool
  | .speaker (.api _) _ => true
  | _ => false

/-- The reply document of an answer to the request for `path` at `url`, or why there is
none. -/
def judgeAnswer (path url : String) (status : Int) (body reason : String) : Except Fault Value := do
  if isErrorStatus status then
    throw (connectionFault
      s!"Request to {url} failed: {status}, message={quoteText reason}, url=URL('{url}')")
  let doc ← if (Text.trimBlanks body).isEmpty then pure Value.null else
    match readDocument body with
    | .ok v => pure v
    | .error (.tooDeep inObject) => throw (ReadError.tooDeep inObject).toFault
    | .error e => throw (refusal "" s!"Invalid response from {url}: {e.message}")
  if !doc.isObj then throw (refusal "" s!"Unexpected response from {url}")
  let code := ((doc.field? "response_code").map Value.display).getD okCode
  if code != okCode then throw (refusal code s!"{path} failed with response code {code}")
  return doc

namespace SpeakerClient

/-- Sends a request and yields the reply document. -/
def request (r : SpeakerRequest) : SpeakerM Value := do
  let c := (← get).client
  if !c.hasSession then throw (connectionFault "Not connected")
  let url ← Exec.lift (r.address c.host)
  let sent : HttpRequest :=
    { method := r.method, url, timeout := r.timeout, headers := r.headers, document := r.document }
  match ← Exec.focus (·.outside) (fun w o => { w with outside := o }) (Outside.send sent) with
  | .timedOut _ => throw (connectionFault s!"Request to {url} timed out")
  | .refused m => throw (connectionFault s!"Request to {url} failed: {m}")
  | .crashed m => throw (.runtime m)
  | .answered status body reason => Exec.lift (judgeAnswer r.path url status body reason)

/-- Sends a request whose reply only has to be accepted. -/
def command (r : SpeakerRequest) : SpeakerM Unit := do
  let _ ← request r

/-- Sends a request and reads its reply with `read`. -/
def query {α : Type} (r : SpeakerRequest) (read : Value → Except Fault α) : SpeakerM α := do
  Exec.lift (read (← request r))

/-- Opens a session of the client's own, unless it has one. -/
def connect : SpeakerM Unit :=
  modify fun w =>
    if w.client.hasSession then w
    else { w with client := { w.client with hasSession := true, ownsSession := true } }

/-- Gives up the session; the client closes it when it is its own. -/
def disconnect : SpeakerM Unit :=
  modify fun w => { w with client := { w.client with hasSession := false } }

/-- The status of a zone. -/
def getStatus (zone : String) (host : Option String := none) : SpeakerM Reply :=
  query { path := s!"{zone}/getStatus", host } (Reply.read zoneStatusSpecs)

/-- Switches a zone on (`on`) or to standby (`standby`). -/
def setPower (zone : String) (power : Value) : SpeakerM Unit :=
  command { path := s!"{zone}/setPower", params := [("power", power)] }

/-- Mutes or unmutes a zone. -/
def setMute (zone : String) (mute : Bool) : SpeakerM Unit :=
  command { path := s!"{zone}/setMute", params := [("enable", .str (if mute then "true" else "false"))] }

/-- Sets the volume of a zone in the speaker's steps. -/
def setVolume (zone : String) (volume : Value) (host : Option String := none) : SpeakerM Unit :=
  command { path := s!"{zone}/setVolume", host, params := [("volume", volume)] }

/-- Selects the input of a zone. -/
def setInput (zone : String) (input : Value) : SpeakerM Unit :=
  command { path := s!"{zone}/setInput", params := [("input", input)] }

/-- Selects the sound program of a zone. -/
def setSoundProgram (zone : String) (program : Value) : SpeakerM Unit :=
  command { path := s!"{zone}/setSoundProgram", params := [("program", program)] }

/-- Sets the sleep timer of a zone. -/
def setSleep (zone : String) (minutes : Value) : SpeakerM Unit :=
  command { path := s!"{zone}/setSleep", params := [("sleep", minutes)] }

/-- Recalls a scene of a zone. -/
def recallScene (zone : String) (scene : Value) : SpeakerM Unit :=
  command { path := s!"{zone}/recallScene", params := [("num", scene)] }

/-- Recalls a preset of the player in a zone. -/
def recallPreset (zone : String) (preset : Value) : SpeakerM Unit :=
  command { path := "netusb/recallPreset", params := [("zone", .str zone), ("num", preset)], long := true }

/-- The presets of the player. -/
def getPresetInfo : SpeakerM PresetInfo :=
  query { path := "netusb/getPresetInfo", long := true, version := "v2" } PresetInfo.read

/-- The recent entries of the player. -/
def getRecentInfo : SpeakerM RecentInfo :=
  query { path := "netusb/getRecentInfo", long := true } RecentInfo.read

/-- What the player plays. -/
def getPlayInfo : SpeakerM Reply :=
  query { path := "netusb/getPlayInfo", long := true } (Reply.read playInfoSpecs)

/-- Sends a command to the player. -/
def setPlayback (playback : Value) : SpeakerM Unit :=
  command { path := "netusb/setPlayback", params := [("playback", playback)], long := true }

/-- Sets the repeat mode of the player. -/
def setRepeat (mode : Value) : SpeakerM Unit :=
  command { path := "netusb/setRepeat", params := [("mode", mode)], long := true }

/-- Sets the shuffle mode of the player. -/
def setShuffle (mode : Value) : SpeakerM Unit :=
  command { path := "netusb/setShuffle", params := [("mode", mode)], long := true }

/-- The link distribution of a speaker. -/
def getDistributionInfo (host : Option String := none) : SpeakerM Distribution :=
  query { path := "dist/getDistributionInfo", host } Distribution.read

/-- Sets up a speaker as the server of a link. -/
def setServerInfo (data : Value) (host : Option String := none) : SpeakerM Unit :=
  command { path := "dist/setServerInfo", host, document := some data, long := true }

/-- Sets up a speaker as a client of a link. -/
def setClientInfo (data : Value) (host : Option String := none) : SpeakerM Unit :=
  command { path := "dist/setClientInfo", host, document := some data, long := true }

/-- Starts a server's distribution to its clients. -/
def startDistribution (host : Option String := none) : SpeakerM Unit :=
  command { path := "dist/startDistribution", host, params := [("num", .int 1)], long := true }

/-- The features of a speaker. -/
def getFeatures (host : Option String := none) : SpeakerM Features :=
  query { path := "system/getFeatures", host, long := true } Features.read

/-- The device information of the speaker. -/
def getDeviceInfo : SpeakerM Reply :=
  query { path := "system/getDeviceInfo" } (Reply.read deviceInfoSpecs)

/-- Asks the speaker to keep pushing its events to the hub. -/
def keepAlive : SpeakerM Unit :=
  command { path := "system/getDeviceInfo",
            headers := some [("X-AppName", appName), ("X-AppPort", toString eventPort)] }

theorem request_unconnected (r : SpeakerRequest) (w : SpeakerWorld) (h : w.client.hasSession = false) :
    (request r).run' w = (.error (connectionFault "Not connected"), w) := by
  rw [request, Exec.run'_bind, Exec.run'_get]
  simp [h]

end SpeakerClient

end ConnectedHome.Speaker
