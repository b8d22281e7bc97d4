import ConnectedHome.Vehicle.Client.Calls
import ConnectedHome.Vehicle.Status
/-!
# A vehicle and what is known about it

A vehicle (`Car`) is known by its VIN, upper-cased.  What the hub knows about it grows in two
stages:

* **Initialization** (`Car.initialize`) reads the vehicle's home region and the user's
  operation list (both go into the account), the model details (a vehicle that has none is
  still initialized), then a status report, whose fields decide the vehicle's channels, and
  finally the location.
* **Updates** (`Car.update`) read a status report and the location again; a vehicle that is
  not initialized is initialized instead.

A status report sets the values of the known channels, the aggregate and, from it, whether the
doors are locked.  The location is the parking position, the current position and its two
times; a failure while reading it clears all four, and is passed on unless the service said
there is no position (status 204).

Actions change the controls only when the service accepted them.  The additional data sets
are read one after the other; a failure of the service stands in the place of its data set,
any other failure is passed on after all were read.
-/
namespace ConnectedHome.Vehicle

/-- Coordinates in degrees: latitude, then longitude. -/
abbrev Coordinates := Float × Float

/-- Where the vehicle is and was parked. -/
structure Location where
  position : Option Coordinates := none
  storedPosition : Option Coordinates := none
  positionLastUpdate : Value := .null
  parkingTime : Value := .null
deriving Inhabited

/-- Coordinates as a document. -/
def coordinatesValue : Option Coordinates → Value
  | some (lat, lon) => .list [.float lat, .float lon]
  | none => .null

/-- The location as a document. -/
def Location.toValue (l : Location) : Value :=
  .obj [("position", coordinatesValue l.position),
    ("storedPosition", coordinatesValue l.storedPosition),
    ("positionLastUpdate", l.positionLastUpdate), ("parkingTime", l.parkingTime)]

/-- The last requested state of each remote control; the lock also follows status reports. -/
structure Controls where
  lock : Value := .null
  climater : Value := .null
  windowHeat : Value := .null
  preHeater : Value := .null
deriving Inhabited

/-- The controls as a document. -/
def Controls.toValue (c : Controls) : Value :=
  .obj [("lock", c.lock), ("climater", c.climater), ("windowHeat", c.windowHeat),
    ("preHeater", c.preHeater)]

/-- What is known about a vehicle. -/
structure Car where
  vin : String
  initialized : Bool := false
  details : VehicleDetails := VehicleDetails.empty
  services : ServiceList := ServiceList.empty
  channels : ChannelMap := []
  values : ChannelValues := []
  aggregate : Aggregate := {}
  location : Location := {}
  controls : Controls := {}
deriving Inhabited

/-- A vehicle nothing is known about yet. -/
def Car.ofVin (vin : String) : Car := { vin := Text.upper vin }

/-- The vehicle's state as a document. -/
def Car.toValue (c : Car) : Value :=
  .obj [("vin", .str c.vin), ("details", c.details.toValue),
    ("channels", .obj (c.channels.map fun (k, ch) => (k, ch.toValue))),
    ("values", .obj c.values), ("aggregate", c.aggregate.toValue),
    ("location", c.location.toValue), ("controls", c.controls.toValue)]

/-- A vehicle, its client and the outside world. -/
structure CarWorld where
  client : VehicleClient
  car : Car
  outside : Outside
deriving Inhabited

/-- Computations about a vehicle. -/
abbrev CarM := Exec CarWorld

/-- Runs a computation of the client. -/
def viaClient {α : Type} (x : ClientM α) : CarM α :=
  Exec.focus (fun w => ⟨w.client, w.outside⟩)
    (fun w cw => { w with client := cw.client, outside := cw.outside }) x

/-- The vehicle. -/
def car : CarM Car := do return (← get).car

/-- Changes the vehicle. -/
def modifyCar (f : Car → Car) : CarM Unit := modify fun w => { w with car := f w.car }

/-- Changes the account of the client. -/
def modifyConfig (f : AccountConfig → AccountConfig) : CarM Unit :=
  modify fun w => { w with client := { w.client with config := f w.client.config } }

/-- The text an account member takes from a value the service sent. -/
def memberText (v : Value) : String :=
  match v with
  | .str s => s
  | _ => v.display

/-- Whether a fault is a failure the service reported. -/
def isServiceRefusal : Fault → Bool
  | .vehicle .api _ _ => true
  | _ => false

/-- The status of the exchange a vehicle service failure happened in. -/
def exchangeStatus : Fault → Option Int
  | .vehicle _ _ x => some x.status
  | _ => none

/-- The coordinates of a position report, when it has both. The longitude is only converted
once the latitude is known to be there. -/
def coordinatesOf (p : PositionReport) : Except Fault (Option Coordinates) := do
  match ← p.latitude with
  | none => return none
  | some a =>
    match ← p.longitude with
    | none => return none
    | some b => return some (a, b)

/-- Applies a status report: the values of the known channels, the aggregate and the lock. -/
def applyStatus (r : StatusReport) : CarM Unit := do
  let c ← car
  let u ← Exec.lift (processReport r ChannelTable.builtIn (some (c.channels.map (·.1))))
  modifyCar fun c =>
    { c with values := u.values.foldl (fun vs (k, v) => vs.put k v) c.values,
             aggregate := u.aggregate,
             controls := { c.controls with lock := .bool u.aggregate.vehicleLocked } }

/-- Reads both positions; see the module notes for failures. -/
def updateLocation : CarM Unit := do
  let vin := (← car).vin
  let read : CarM Unit := do
    let stored ← viaClient (getStoredPosition vin)
    let storedAt ← Exec.lift (coordinatesOf stored)
    modifyCar fun c => { c with location := { c.location with storedPosition := storedAt } }
    let current ← viaClient (getVehiclePosition vin)
    let currentAt ← Exec.lift (coordinatesOf current)
    let location (l : Location) : Location :=
      { l with position := currentAt, positionLastUpdate := current.timestampTssReceived,
               parkingTime := current.parkingTimeUtc }
    modifyCar fun c => { c with location := location c.location }
  match ← Exec.attempt read with
  | .ok () => return
  | .error f =>
    if f.isVehicle then
      modifyCar fun c => { c with location := {} }
      if exchangeStatus f != some 204 then throw f
    else throw f

/-- Initializes the vehicle; see the module notes. -/
def Car.initialize : CarM Unit := do
  let vin := (← car).vin
  modifyConfig fun a => { a with vin }
  let home ← viaClient (getHomeRegionUrl vin)
  modifyConfig fun a => { a with homeRegionUrl := memberText home }
  let services ← viaClient (getServices vin)
  modifyCar fun c => { c with services }
  let userId := services.get "user_id"
  modifyConfig fun a => { a with userId := if userId.truthy then memberText userId else "" }
  match ← Exec.attempt (viaClient (getVehicleDetails vin)) with
  | .ok details => modifyCar fun c => { c with details }
  | .error f => if isServiceRefusal f then pure () else throw f
  let status ← viaClient (getVehicleStatus vin)
  modifyCar fun c => { c with channels := discoverChannels status ChannelTable.builtIn }
  applyStatus status
  updateLocation
  modifyCar fun c => { c with initialized := true }

/-- Updates the vehicle, initializing it first when needed. -/
def Car.update : CarM Unit := do
  if !(← car).initialized then Car.initialize
  else
    let status ← viaClient (getVehicleStatus (← car).vin)
    applyStatus status
    updateLocation

/-- Sends a remote command: the client's `call` with the VIN and whether to switch on, and, once
the service accepted it, `on` as the requested state of the control that `set` writes. -/
def Car.command (call : String → Bool → ClientM ActionReply) (set : Controls → Value → Controls)
    (on : Value) : CarM Unit := do
  discard (viaClient (call (← car).vin on.truthy))
  modifyCar fun c => { c with controls := set c.controls on }

/-- Locks or unlocks the doors. -/
def Car.lock (lock : Value) : CarM Unit :=
  Car.command lockDoor (fun cs v => { cs with lock := v }) lock

/-- Starts or stops climatisation. -/
def Car.setClimatisation (on : Value) : CarM Unit :=
  Car.command climaControl (fun cs v => { cs with climater := v }) on

/-- Starts or stops window heating. -/
def Car.setWindowHeating (on : Value) : CarM Unit :=
  Car.command controlWindowHeating (fun cs v => { cs with windowHeat := v }) on

/-- Starts or stops the auxiliary heater. -/
def Car.setPreHeating (on : Value) : CarM Unit :=
  Car.command controlPreHeating (fun cs v => { cs with preHeater := v }) on

/-- The additional data sets, by name, with how each is read. -/
def additionalDataSets (vin : String) : List (String × ClientM Value) :=
  [("vehicle_management_info", getRaw managementInfoUri vin),
   ("vehicle_data", getRaw vehicleDataUri vin),
   ("vehicle_rights", getRaw vehicleRightsUri vin),
   ("vehicle_users", getRaw vehicleUsersUri vin),
   ("climater_timer", getRaw climaterTimerUri vin),
   ("clima_status", getRaw climaterStatusUri vin),
   ("charger_status", getRaw chargerStatusUri vin),
   ("history", getRaw historyUri vin),
   ("trip_data_short_term", getTripData vin "shortTerm"),
   ("trip_data_long_term", getTripData vin "longTerm"),
   ("destinations", getRaw destinationsUri vin),
   ("pois", getRaw poisUri vin),
   ("rlu_action_history", getRaw lockActionsUri vin)]

/-- Reads every additional data set; see the module notes. -/
def Car.additionalData : CarM Value := do
  let vin := (← car).vin
  let outcomes ← (additionalDataSets vin).mapM fun (name, x) => do
    return (name, ← Exec.attempt (viaClient x))
  let unexpected := outcomes.filterMap fun (_, r) => match r with
    | .error f => if f.isVehicle then none else some f
    | .ok _ => none
  match unexpected with
  | f :: _ => throw f
  | [] =>
    return .obj (outcomes.map fun (name, r) => match r with
      | .ok v => (name, v)
      | .error f => (name, .obj [("error", .str f.message)]))

theorem Car.ofVin_initialized (vin : String) : (Car.ofVin vin).initialized = false := rfl

end ConnectedHome.Vehicle
