import ConnectedHome.Console.Steps
import ConnectedHome.Console.VehicleRequests
import ConnectedHome.Console.VehicleReports
import ConnectedHome.Vehicle.Client.Calls
/-!
# Console: a session with the vehicle service client

`clientSessionAnswer` runs a client through a list of calls against a scripted network.  The
client starts with the request's account, a session unless the request says otherwise, and
either no tokens or, when logged in, three valid tokens issued at the start; single members of
the tokens can be set.  Each call is answered with its result or fault, the requests it sent,
the tokens the client holds after it and whether it has a session; once the client opened a
session of its own, also the sessions it opened and closed.
-/
namespace ConnectedHome.Console

open Vehicle Http

/-- A held token with the members a document gives replaced. -/
def heldTokenWith (t : HeldToken) (v : Value) : HeldToken :=
  { authType := v.textOr "auth_type" t.authType, accessToken := v.textOr "access_token" t.accessToken,
    idToken := v.textOr "id_token" t.idToken, refreshToken := v.textOr "refresh_token" t.refreshToken,
    scope := v.textOr "scope" t.scope, validity := v.memberOr "validity" t.validity,
    issuedAt := v.memberOr "issued_at" t.issuedAt }

/-- The three tokens of a logged-in client, issued at `clock`. -/
def loggedInTokens (clock : Value) : HeldToken × HeldToken × HeldToken :=
  let t : HeldToken := { authType := "AudiAuth", validity := .int 3600, issuedAt := clock }
  ({ t with accessToken := "at" }, { t with idToken := "idt" }, { t with accessToken := "sec" })

/-- The client a request describes, at clock reading `clock`. -/
def clientOfRequest (req : Value) (clock : Value) : Except Fault VehicleClient := do
  let config ← accountOfMembers (req.memberOr "config" .null)
  let (api, id, security) :=
    if req.flagOr "logged_in" false then loggedInTokens clock else ({}, {}, {})
  let tokens := req.memberOr "tokens" (.obj [])
  let held (t : HeldToken) (k : String) : HeldToken :=
    match tokens.field? k with
    | some v => heldTokenWith t v
    | none => t
  let shared := req.flagOr "session" true
  return { config, hasSession := shared, ownsSession := !shared, apiToken := held api "api",
           idToken := held id "id", securityToken := held security "security" }

/-- The call of the client named `call` with arguments `args`; none for an unknown call.  A
position is shown with its coordinates and times beside it. -/
def clientCall (call : String) (args : Value) : Option (ClientM CallResult) :=
  let owner := s!"CarNetApiClient.{call}"
  let plain (x : ClientM Value) : ClientM CallResult := do return (← x, [])
  let withArgs (names : List String) (k : List Value → ClientM CallResult) : ClientM CallResult := do
    k (← Exec.lift (argsOf owner names args))
  let byVin (k : String → ClientM Value) : ClientM CallResult :=
    withArgs ["vin"] fun vs => plain (k (argText (vs.headD .null)))
  let position (k : String → ClientM PositionReport) : ClientM CallResult :=
    withArgs ["vin"] fun vs => do
      let p ← k (argText (vs.headD .null))
      return (p.toValue, [("position", positionValue p)])
  let action (flag : String) (k : String → Bool → ClientM ActionReply) : ClientM CallResult :=
    withArgs ["vin", flag] fun vs =>
      plain (ActionReply.toValue <$> k (argText (vs.headD .null)) (vs.getD 1 .null).truthy)
  match call with
  | "connect" => some (plain do connect; return .null)
  | "refresh_tokens" => some (plain do refreshTokens; return .null)
  | "disconnect" | "aexit" => some (plain do disconnect; return .null)
  | "aenter" => some (plain do connect; return .obj [("client", .bool true)])
  | "set_config" => some <| withArgs ["config"] fun vs => plain do
      setConfig (← Exec.lift (accountOfMembers (vs.headD .null)))
      return .null
  | "get_vehicles" => some (plain (VehicleList.toValue <$> getVehicles))
  | "get_vehicle_details" => some <| byVin fun vin => VehicleDetails.toValue <$> getVehicleDetails vin
  | "get_vehicle_status" => some <| byVin fun vin => StatusReport.toValue <$> getVehicleStatus vin
  | "get_vehicle_position" => some (position getVehiclePosition)
  | "get_stored_position" => some (position getStoredPosition)
  | "get_home_region_url" => some <| byVin getHomeRegionUrl
  | "get_services" => some <| byVin fun vin => ServiceList.toValue <$> getServices vin
  | "get_trip_data" => some <| withArgs ["vin", "trip_type"] fun vs =>
      plain (getTripData (argText (vs.headD .null)) (argText (vs.getD 1 .null)))
  | "lock_door" => some (action "lock" lockDoor)
  | "clima_control" => some (action "start" climaControl)
  | "control_window_heating" => some (action "start" controlWindowHeating)
  | "control_pre_heating" => some (action "start" controlPreHeating)
  | other =>
    match rawDataTemplates.lookup (other.drop 4).toString with
    | some template => if other.startsWith "get_" then some (byVin fun vin => getRaw template vin) else none
    | none => none

/-- The tokens of a client as shown. -/
def tokensValue (c : VehicleClient) : Value :=
  .obj [("api", c.apiToken.toValue), ("id", c.idToken.toValue), ("security", c.securityToken.toValue)]

/-- Runs one step of a client session: its answer and the world after it. -/
def clientStep (w : ClientWorld) (step : Value) : Value × ClientWorld :=
  let call := step.textOr "call" ""
  match advanceClock step w.outside with
  | .error f => (f.toValue, w)
  | .ok outside =>
    let w := { w with outside }
    match clientCall call (step.memberOr "args" (.obj [])) with
    | none => (unknownCall call, w)
    | some act =>
      let (r, w') := act.run' w
      let (sent, outside') := w'.outside.takeSent
      let c := w'.client
      let owned : List (String × Value) :=
        if c.opened.isEmpty then []
        else [("owned_session", .obj [("created", .list (c.opened.map fun (n : Nat) => Value.int n)),
          ("closed", .int c.closed)])]
      (.obj (outcomeMembers r ++ [("requests", .list (sent.map vehicleRequestValue)),
        ("tokens", tokensValue c), ("connected", .bool c.hasSession)] ++ owned),
       { w' with outside := outside' })

/-- Runs a session with the vehicle service client. -/
def clientSessionAnswer (req : Value) : Value :=
  let clock := req.memberOr "clock" (.float 1000.0)
  match clientOfRequest req clock with
  | .error f => f.toValue
  | .ok c =>
    let w : ClientWorld := { client := c, outside := { network := { routes := routesOf req }, clock } }
    .obj [("steps", .list (runSteps clientStep w (stepsOf req)))]

end ConnectedHome.Console
