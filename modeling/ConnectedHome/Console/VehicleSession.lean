import ConnectedHome.Console.VehicleClient
import ConnectedHome.Vehicle.Diagnostics
/-!
# Console: a session with a vehicle

`vehicleSessionAnswer` runs a vehicle, and optionally its coordinator, through a list of calls
against a scripted network; a step may replace the routes from then on.  Each call is answered
with its result or fault, the requests it sent and the state of the vehicle after it: what is
known about the vehicle, whether it is initialized, the user's operations and the account's
VIN, home region and user id.  With a coordinator, each answer also counts the refreshes the
call asked for.
-/
namespace ConnectedHome.Console

open Vehicle Http Hub

/-- The state of a vehicle and its account as shown. -/
def carStateValue (client : VehicleClient) (car : Car) : Value :=
  let base := match car.toValue with
    | .obj ms => ms
    | _ => []
  .obj (base ++ [("initialized", .bool car.initialized), ("services", car.services.toValue),
    ("config", .obj [("vin", .str client.config.vin),
      ("home_region_url", .str client.config.homeRegionUrl), ("user_id", .str client.config.userId)])])

/-- A named argument that must be there. -/
def requiredArg (args : Value) (k : String) : PollM Value := Exec.lift (args.item k)

/-- Runs the action of the entity a request names. -/
def entityAction (args : Value) : PollM Value := do
  let w ← get
  let id := args.textOr "unique_id" ""
  let action := args.textOr "action" ""
  match (allEntities w.car).find? (fun e => e.uniqueId w.car.vin == id) with
  | none => throw (.missingKey id)
  | some e =>
    match e.act action with
    | some run => do run; return .null
    | none => throw (.noAttribute s!"'{e.className}' object has no attribute 'async_{action}'")

/-- The call of a vehicle session named `call`; none for an unknown call. -/
def vehicleCall (call : String) (args : Value) : Option (PollM Value) :=
  let unit (x : PollM Unit) : PollM Value := do x; return .null
  let switch (k : Value → PollM Unit) : PollM Value := unit do k (← requiredArg args "on")
  match call with
  | "initialize" => some (unit (viaCar Car.initialize))
  | "update" => some (unit (viaCar Car.update))
  | "update_location" => some (unit (viaCar updateLocation))
  | "lock" => some (switch fun on => viaCar (Car.lock on))
  | "climatisation" => some (switch fun on => viaCar (Car.setClimatisation on))
  | "window_heating" => some (switch fun on => viaCar (Car.setWindowHeating on))
  | "pre_heating" => some (switch fun on => viaCar (Car.setPreHeating on))
  | "additional_data" => some (viaCar Car.additionalData)
  | "coord_update" => some (Car.toValue <$> pollUpdate)
  | "coord_lock" => some (switch pollLock)
  | "coord_climatisation" => some (switch pollClimatisation)
  | "coord_window_heating" => some (switch pollWindowHeating)
  | "coord_pre_heating" => some (switch pollPreHeating)
  | "entities" => some do
      let w ← get
      return .list ((allEntities w.car).map fun e => (e.view w).toValue)
  | "entity_action" => some (entityAction args)
  | "diagnostics" => some do
      vehicleDiagnostics (ConfigEntry.ofValue "carnet" (args.memberOr "entry" (.obj [])))
  | _ => none

/-- Runs one step of a vehicle session. -/
def vehicleStep (coordinated : Bool) (w : PolledCar) (step : Value) : Value × PolledCar :=
  let call := step.textOr "call" ""
  let w := match step.field? "routes" with
    | some _ => { w with outside := w.outside.withRoutes (routesOf step) }
    | none => w
  match advanceClock step w.outside with
  | .error f => (f.toValue, w)
  | .ok outside =>
    let w := { w with outside, coordinator := { w.coordinator with refreshRequests := 0 } }
    match vehicleCall call (step.memberOr "args" (.obj [])) with
    | none => (unknownCall call, w)
    | some act =>
      let (r, w') := act.run' w
      let (sent, outside') := w'.outside.takeSent
      let refreshes : List (String × Value) :=
        if coordinated then [("refresh_requested", .int w'.coordinator.refreshRequests)] else []
      (.obj (outcomeMembers (r.map fun v => (v, [])) ++
          [("requests", .list (sent.map vehicleRequestValue)),
           ("state", carStateValue w'.client w'.car)] ++ refreshes),
       { w' with outside := outside' })

/-- Runs a session with a vehicle. -/
def vehicleSessionAnswer (req : Value) : Value :=
  let clock := req.memberOr "clock" (.float 1000.0)
  match clientOfRequest req clock with
  | .error f => f.toValue
  | .ok c =>
    let vin := argText (req.memberOr "vin" (.str ""))
    let w : PolledCar :=
      { client := c, car := Car.ofVin vin, coordinator := { interval := some (900 * 1000000) },
        outside := { network := { routes := routesOf req }, clock } }
    .obj [("steps", .list (runSteps (vehicleStep (req.flagOr "coordinator" false)) w (stepsOf req)))]

end ConnectedHome.Console
