import ConnectedHome.Vehicle.Client.Tokens
/-!
# What the client asks of the vehicle service

The calls of the client: connecting (a session, then the tokens), the vehicle data the app
reads, and the remote actions.

* Vehicle data is read with the app's headers, except the operation list, which the vehicle's
  home region serves.  Most data is read into records (`VehicleList`, `VehicleDetails`, …);
  the rest is handed on as the object the service sent (`getRaw`).
* Locking and the auxiliary heater are privileged (`guardedAction`): they answer a PIN challenge
  first (`actionSecurityToken`) and send the action's token along.  Climatisation and window heating
  only need a valid security token.
-/
namespace ConnectedHome.Vehicle

/-- Opens a session when there is none, then makes sure all tokens are valid. -/
def connect : ClientM Unit := do
  if !(← client).hasSession then
    modifyClient fun c =>
      { c with hasSession := true, ownsSession := true, opened := c.opened ++ [c.timeout] }
  refreshTokens

/-- Closes the session when the client owns it, and forgets it in any case. -/
def disconnect : ClientM Unit :=
  modifyClient fun c =>
    { c with hasSession := false, closed := if c.hasSession && c.ownsSession then c.closed + 1 else c.closed }

/-- Replaces the account. -/
def setConfig (config : AccountConfig) : ClientM Unit := modifyClient fun c => { c with config }

/-- Reads an object with the app's headers. -/
def getObject (template vin : String) (named : List (String × String) := []) : ClientM Value := do
  let headers ← appHeaders
  let text ← request { method := "GET", template, headers, vin, named }
  Exec.lift (parseObject text)

/-- Reads an object as the service sent it. -/
def getRaw (template vin : String) (named : List (String × String) := []) : ClientM Value :=
  getObject template vin named

/-- The vehicles of the account. -/
def getVehicles : ClientM VehicleList := do
  let doc ← getObject vehicleListUri ""
  Exec.lift (VehicleList.read doc)

/-- Model and equipment of a vehicle. -/
def getVehicleDetails (vin : String) : ClientM VehicleDetails := do
  Exec.lift (VehicleDetails.read (← getObject vehicleDetailsUri vin))

/-- The stored status report of a vehicle. -/
def getVehicleStatus (vin : String) : ClientM StatusReport := do
  Exec.lift (StatusReport.read (← getObject vehicleStatusUri vin))

/-- The current position of a vehicle. -/
def getVehiclePosition (vin : String) : ClientM PositionReport := do
  Exec.lift (PositionReport.read (← getObject vehiclePositionUri vin))

/-- The parking position of a vehicle. -/
def getStoredPosition (vin : String) : ClientM PositionReport := do
  Exec.lift (PositionReport.read (← getObject storedPositionUri vin))

/-- The base address of the vehicle's home region; the default region when none is sent. -/
def getHomeRegionUrl (vin : String) : ClientM Value := do
  let region ← Exec.lift (HomeRegion.read (← getObject homeRegionUri vin))
  return region.baseUri.orElse (.str defaultHomeRegion)

/-- The operations the user may run on a vehicle. -/
def getServices (vin : String) : ClientM ServiceList := do
  let headers ← homeRegionHeaders
  let text ← request { method := "GET", template := operationListUri, headers, vin }
  Exec.lift do ServiceList.read (← parseObject text)

/-- The data sets that are handed on as sent, by call name. -/
def rawDataTemplates : List (String × String) :=
  [("destinations", destinationsUri), ("history", historyUri),
   ("vehicle_management_info", managementInfoUri), ("vehicle_data", vehicleDataUri),
   ("vehicle_rights", vehicleRightsUri), ("vehicle_users", vehicleUsersUri),
   ("climater_timer", climaterTimerUri), ("clima_status", climaterStatusUri),
   ("charger_status", chargerStatusUri), ("pois", poisUri), ("rlu_action_history", lockActionsUri)]

/-- Trip statistics of one kind, `shortTerm` or `longTerm`. -/
def getTripData (vin tripType : String) : ClientM Value :=
  getRaw tripDataUri vin [("trip_type", tripType)]

/-- The body of a lock action. -/
def lockBody (lock : Bool) : String :=
  let word := if lock then "lock" else "unlock"
  "<?xml version=\"1.0\" encoding= \"UTF-8\" ?><rluAction xmlns=\"http://audi.de/connect/rlu\">" ++
    s!"<action>{word}</action></rluAction>"

/-- The request of an action with its content type. -/
def actionRequest (template vin body contentType : String) (headers : List (String × String)) :
    ServiceRequest :=
  { method := "POST", template, headers, body := some body, vin, contentType := some contentType }

/-- Sends an action with its content type and reads the acknowledgement. -/
def sendAction (template vin body contentType : String) (headers : List (String × String)) :
    ClientM ActionReply := do
  let text ← request (actionRequest template vin body contentType headers)
  Exec.lift do ActionReply.read (← parseObject text)

/-- A privileged action: the PIN challenge of `action` first, then the action with the token it
granted. -/
def guardedAction (vin action template body contentType : String) : ClientM ActionReply := do
  let token ← actionSecurityToken vin action
  let headers ← appHeaders token
  sendAction template vin body contentType headers

/-- Locks or unlocks the vehicle. -/
def lockDoor (vin : String) (lock : Bool) : ClientM ActionReply :=
  guardedAction vin (if lock then lockAction else unlockAction) lockActionsUri (lockBody lock) lockActionType

/-- Sends a climatisation action of the given type. -/
def climaterAction (vin actionType : String) : ClientM ActionReply := do
  discard createSecurityToken
  let headers ← appHeaders
  let body : Value := .obj [("action", .obj [("type", .str actionType)])]
  sendAction climaterActionUri vin body.toRequestText climaterActionType headers

/-- Starts or stops climatisation. -/
def climaControl (vin : String) (start : Bool) : ClientM ActionReply :=
  climaterAction vin (if start then "startClimatisation" else "stopClimatisation")

/-- Starts or stops window heating. -/
def controlWindowHeating (vin : String) (start : Bool) : ClientM ActionReply :=
  climaterAction vin (if start then "startWindowHeating" else "stopWindowHeating")

/-- The body of an auxiliary heater action. -/
def preHeaterBody (start : Bool) : Value :=
  if start then
    .obj [("performAction", .obj [("quickstart", .obj [("active", .bool true),
      ("climatisationDuration", .int 30), ("startMode", .str "heating")])])]
  else .obj [("performAction", .obj [("quickstop", .obj [("active", .bool false)])])]

/-- Starts or stops the auxiliary heater. -/
def controlPreHeating (vin : String) (start : Bool) : ClientM ActionReply :=
  guardedAction vin preHeatAction preHeaterActionUri (preHeaterBody start).toRequestText preHeaterActionType

theorem disconnect_run' (w : ClientWorld) :
    (disconnect.run' w).2.client.hasSession = false := rfl

end ConnectedHome.Vehicle
