import ConnectedHome.Outside
import ConnectedHome.Vehicle.Endpoints
import ConnectedHome.Vehicle.Token
import ConnectedHome.Document.Reader
import ConnectedHome.Document.Writer
import ConnectedHome.Text.Blank
/-!
# The vehicle service client and its requests

The client holds the account, the three tokens it was issued (access, identity, security),
whether it has a session to send requests through and whether it opened that session itself
(`VehicleClient`).  It runs against the outside world (`ClientWorld`, `ClientM`).

A request (`ServiceRequest`) names a method, an address template and what fills it, headers,
a body, and whether it asks for a token.  Sending it (`request`) checks the session, builds the
address, drops empty headers and sets the content type of a body (the explicit one; else a
document when the body starts with `{`, a form otherwise).  What comes back is judged
(`settle`, then `judgeResponse` for an answer), in this order:

1. a timeout or a refused connection is a connection failure;
2. the text, with tabs and CR LF pairs removed and blanks trimmed, that holds `"error":` is
   an error report: a refusal of the credentials when the request asked for a token, the status
   is 401, the error is one of the refused-credential errors or the code is the gateway's
   authorization code; a failure of the service otherwise;
3. status 401 is a refusal of the credentials;
4. a status other than 200, 201 and 202 is a failure of the service;
5. an empty text is a failure of the service.

Every failure carries the exchange it happened in.
-/
namespace ConnectedHome.Vehicle

open Http

/-- The client of the vehicle service. -/
structure VehicleClient where
  config : AccountConfig
  timeout : Nat := requestTimeout
  /-- Whether the client has a session to send requests through. -/
  hasSession : Bool := true
  /-- Whether the client opens and closes its session itself. -/
  ownsSession : Bool := false
  apiToken : HeldToken := {}
  idToken : HeldToken := {}
  securityToken : HeldToken := {}
  /-- The timeouts of the sessions the client opened, in order. -/
  opened : List Nat := []
  /-- How many of its own sessions the client closed. -/
  closed : Nat := 0
deriving Inhabited

/-- The client and the outside world it runs against. -/
structure ClientWorld where
  client : VehicleClient
  outside : Outside
deriving Inhabited

/-- Computations of the client. -/
abbrev ClientM := Exec ClientWorld

/-- The client. -/
def client : ClientM VehicleClient := do return (← get).client

/-- Changes the client. -/
def modifyClient (f : VehicleClient → VehicleClient) : ClientM Unit :=
  modify fun w => { w with client := f w.client }

/-- The clock reading. -/
def now : ClientM Value := do return (← get).outside.clock

/-- Sends a request to the outside world. -/
def sendOut (req : HttpRequest) : ClientM HttpOutcome :=
  Exec.focus (·.outside) (fun w o => { w with outside := o }) (Outside.send req)

/-- Whether a token is expired now. -/
def expiredNow (t : HeldToken) : ClientM Bool := do Exec.lift (t.expiredAt (← now))

/-- A failure of the vehicle service of class `kind` in exchange `x`. -/
def serviceFault (kind : VehicleFailure) (msg : String) (x : Exchange := {}) : Fault :=
  .vehicle kind msg x

/-- Sets a header, in place when it is there. -/
def putHeader (hs : List (String × String)) (k v : String) : List (String × String) :=
  if hs.any (·.1 == k) then hs.map fun (k', v') => if k' == k then (k', v) else (k', v')
  else hs ++ [(k, v)]

/-- What a call asks of the service. -/
structure ServiceRequest where
  method : String
  template : String
  headers : List (String × String) := []
  body : Option String := none
  vin : String := ""
  query : List (String × Value) := []
  contentType : Option String := none
  /-- Whether the request asks for a token; its error reports are refusals of the credentials. -/
  forToken : Bool := false
  /-- Further texts the template names. -/
  named : List (String × String) := []
deriving Inhabited

/-- The body that is sent: none for an empty one. -/
def ServiceRequest.sentBody (r : ServiceRequest) : Option String :=
  r.body.filter (!·.isEmpty)

/-- The headers that are sent: the non-empty ones, and the content type of a body. -/
def ServiceRequest.sentHeaders (r : ServiceRequest) : List (String × String) :=
  let hs := r.headers.filter (fun (_, v) => !v.isEmpty)
  match r.sentBody with
  | some b =>
    putHeader hs "Content-Type" (r.contentType.getD (if b.startsWith "\x7b" then jsonType else formType))
  | none => hs

/-- A response text with tabs and CR LF pairs removed and surrounding blanks trimmed. -/
def cleanResponse (text : String) : String :=
  Text.trimBlanks ((text.replace "\t" "").replace "\r\n" "")

/-- Whether an error report means the credentials were refused. -/
def refusesCredentials (forToken : Bool) (status : Int) (report : ErrorReport) : Bool :=
  forToken || status == 401 || refusedCredentials.contains report.error ||
    report.code == gatewayAuthorizationCode

/-- The error report in a response text; a malformed text is an unknown error described by
the text. -/
def reportOf (text : String) : Except Fault ErrorReport :=
  match readDocument text with
  | .ok doc => ErrorReport.read doc
  | .error e =>
    if e.isMalformed then .ok { error := "unknown", description := text } else .error e.toFault

/-- Judges the cleaned response of an exchange: its text, or why it failed. -/
def judgeResponse (forToken : Bool) (x : Exchange) : Except Fault String := do
  let text := x.response
  if text.contains "\"error\":" then
    let report ← reportOf text
    let x := { x with report }
    if refusesCredentials forToken x.status report then
      throw (serviceFault .authentication
        s!"Authentication failed ({report.code}, {report.error}): {report.description}" x)
    throw (serviceFault .api s!"API call failed ({report.code}, {report.error}): {report.description}" x)
  if x.status == 401 then throw (serviceFault .authentication "Authentication failed" x)
  if !x.statusOk then throw (serviceFault .api s!"API call failed: HTTP {x.status}" x)
  if text.isEmpty then throw (serviceFault .api "Invalid result received from API, maybe URL problem" x)
  return text

/-- The address of a request under an account. -/
def ServiceRequest.address (r : ServiceRequest) (a : AccountConfig) : Except Fault String :=
  a.brandUrl r.template r.vin r.query (r.named.map fun (k, t) => (k, .str t))

/-- The request as it goes out to address `url`, with `timeout` seconds to complete. -/
def ServiceRequest.toHttp (r : ServiceRequest) (url : String) (timeout : Nat) : HttpRequest :=
  { method := r.method, url, timeout, headers := some r.sentHeaders, body := r.sentBody }

/-- What the client makes of what came back in exchange `x`: a timeout or a refused connection
is a connection failure, an answer is judged, and a broken transport passes its failure on. -/
def settle (forToken : Bool) (x : Exchange) : HttpOutcome → Except Fault String
  | .timedOut m => .error (serviceFault .connection s!"API call timed out: {m}" x)
  | .refused m => .error (serviceFault .connection s!"API call failed: {m}" x)
  | .crashed m => .error (.runtime m)
  | .answered status body _ => judgeResponse forToken { x with status, response := cleanResponse body }

/-- Sends a request and yields the cleaned text of an accepted response. -/
def request (r : ServiceRequest) : ClientM String := do
  let c ← client
  if !c.hasSession then throw (serviceFault .connection "Not connected to CarNet")
  let url ← Exec.lift (r.address c.config)
  let outcome ← sendOut (r.toHttp url c.timeout)
  Exec.lift (settle r.forToken { method := r.method, url } outcome)

/-- Reads a response text as an object. -/
def parseObject (text : String) : Except Fault Value :=
  match readDocument text with
  | .error e =>
    if e.isMalformed then .error (serviceFault .api s!"Unable to process API result: {e.message}")
    else .error e.toFault
  | .ok v => if v.isObj then .ok v else .error (serviceFault .api "Unexpected API result, expected an object")

end ConnectedHome.Vehicle
