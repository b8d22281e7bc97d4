import ConnectedHome.Vehicle.Polling
import ConnectedHome.Vehicle.EntityNames
import ConnectedHome.Hub.Entity
import ConnectedHome.Hub.Timestamp
/-!
# The vehicle's entities

A vehicle is shown by these entities (`VehicleEntity`), platform by platform:

* sensors: one per discovered channel that is not a switch, and the times of the last position
  and of parking;
* binary sensors: the four flags of the aggregate, and one per discovered switch channel;
* trackers: the current and the parking position;
* the door lock;
* switches: climatisation, window heating and the auxiliary heater;
* a button that asks for a refresh.

Entities show the coordinator's data, that is the vehicle as of its last successful update;
before the first one they show nothing.  The device they belong to is the vehicle as known
now, with the account's brand when the vehicle names none.  The door lock and the switches
run their actions through the coordinator.
-/
namespace ConnectedHome.Vehicle

open Hub

/-- The flags of the aggregate. -/
inductive AggregateFlag where
  | locked
  | maintenanceRequired
  | tiresOk
  | windowsClosed
deriving BEq, Inhabited

/-- The value of a flag. -/
def AggregateFlag.of (a : Aggregate) : AggregateFlag → Bool
  | .locked => a.vehicleLocked
  | .maintenanceRequired => a.maintenanceRequired
  | .tiresOk => a.tiresOk
  | .windowsClosed => a.windowsClosed

/-- An entity of the vehicle. -/
inductive VehicleEntity where
  | channelSensor (c : Channel)
  | locationTime (channel icon : String)
  | aggregateSensor (channel : String) (flag : AggregateFlag) (icon : String)
  | channelSwitch (c : Channel)
  | tracker (channel : String)
  | doorLock
  | control (control name icon : String)
  | refresh
deriving Inhabited

namespace VehicleEntity

/-- The class of the entity. -/
def className : VehicleEntity → String
  | .channelSensor _ => "ChannelSensor"
  | .locationTime .. => "LocationTimeSensor"
  | .aggregateSensor .. => "AggregateBinarySensor"
  | .channelSwitch _ => "ChannelBinarySensor"
  | .tracker _ => "VehicleTracker"
  | .doorLock => "DoorLockEntity"
  | .control .. => "ControlSwitch"
  | .refresh => "RefreshButton"

/-- The part of the unique id after the vehicle. -/
def idSuffix : VehicleEntity → String
  | .channelSensor c | .channelSwitch c => channelUniqueId c.key
  | .locationTime ch _ | .tracker ch => channelUniqueId ("location#" ++ ch)
  | .aggregateSensor ch _ _ => channelUniqueId ("general#" ++ ch)
  | .doorLock => "control_lock"
  | .control c _ _ => "control_" ++ Text.lower c
  | .refresh => "control_update"

/-- The unique id of the entity of the vehicle `vin`. -/
def uniqueId (e : VehicleEntity) (vin : String) : String :=
  s!"carnet_{Text.lower vin}_{e.idSuffix}"

/-- The name of the entity. -/
def name : VehicleEntity → String
  | .channelSensor c | .channelSwitch c => channelLabel c.channel
  | .locationTime ch _ | .aggregateSensor ch _ _ => channelLabel ch
  | .tracker ch => if ch == "position" then "Location" else "Parking position"
  | .doorLock => "Door lock"
  | .control _ n _ => n
  | .refresh => "Refresh data"

/-- The icon of the entity. -/
def icon : VehicleEntity → Option String
  | .channelSensor c => if c.channel == "odometer" then some "mdi:counter" else none
  | .channelSwitch _ => none
  | .locationTime _ i | .aggregateSensor _ _ i | .control _ _ i => some i
  | .tracker ch => some (if ch == "position" then "mdi:car" else "mdi:parking")
  | .doorLock => some "mdi:lock"
  | .refresh => some "mdi:refresh"

end VehicleEntity

/-- The sensors of a vehicle. -/
def sensorEntities (car : Car) : List VehicleEntity :=
  (car.channels.filter (fun (_, c) => c.itemKind != .switch)).map (fun (_, c) => .channelSensor c) ++
    [.locationTime "positionLastUpdate" "mdi:clock-outline", .locationTime "parkingTime" "mdi:car-clock"]

/-- The binary sensors of a vehicle. -/
def binarySensorEntities (car : Car) : List VehicleEntity :=
  [.aggregateSensor "vehicleLocked" .locked "mdi:car-key",
   .aggregateSensor "maintenanceRequired" .maintenanceRequired "mdi:car-wrench",
   .aggregateSensor "tiresOk" .tiresOk "mdi:car-tire-alert",
   .aggregateSensor "windowsClosed" .windowsClosed "mdi:car-door"] ++
  (car.channels.filter (fun (_, c) => c.itemKind == .switch)).map (fun (_, c) => .channelSwitch c)

/-- The trackers of a vehicle. -/
def trackerEntities : List VehicleEntity := [.tracker "position", .tracker "storedPosition"]

/-- The switches of a vehicle. -/
def switchEntities : List VehicleEntity :=
  [.control "climater" "Climatisation" "mdi:air-conditioner",
   .control "windowHeat" "Window heating" "mdi:car-defrost-front",
   .control "preHeater" "Pre-heating" "mdi:radiator"]

/-- The platforms of the vehicle's entities with their entities, in the order the hub sets them
up. -/
def entityPlatforms (car : Car) : List (String × List VehicleEntity) :=
  [("binary_sensor", binarySensorEntities car), ("button", [.refresh]),
   ("device_tracker", trackerEntities), ("lock", [.doorLock]), ("sensor", sensorEntities car),
   ("switch", switchEntities)]

/-- All entities of a vehicle: sensors, binary sensors, trackers, lock, switches, button. -/
def allEntities (car : Car) : List VehicleEntity :=
  sensorEntities car ++ binarySensorEntities car ++ trackerEntities ++ [.doorLock] ++
    switchEntities ++ [.refresh]

/-- The device of a vehicle as the hub registers it. -/
def deviceInfo (vin : String) (details : VehicleDetails) (brand : String) : Value :=
  let model := details.get "model_name"
  let year := details.get "model_year"
  let mmi := details.get "mmi"
  .obj ([("identifiers", identifiersValue [("carnet", vin)]), ("name", model.orElse (.str vin)),
    ("manufacturer", (details.get "brand").orElse (.str brand)),
    ("model", model.orElse (.str "CarNet Vehicle")), ("serial_number", .str vin)] ++
    (if year.truthy then [("hw_version", year)] else []) ++
    (if mmi.truthy then [("sw_version", mmi)] else []))

/-- A member of the location by its channel name. -/
def Location.get (l : Location) : String → Value
  | "position" => coordinatesValue l.position
  | "storedPosition" => coordinatesValue l.storedPosition
  | "positionLastUpdate" => l.positionLastUpdate
  | "parkingTime" => l.parkingTime
  | _ => .null

/-- The value of a control by its name. -/
def Controls.get (c : Controls) : String → Value
  | "lock" => c.lock
  | "climater" => c.climater
  | "windowHeat" => c.windowHeat
  | "preHeater" => c.preHeater
  | _ => .null

/-- The time a location member gives: none when it counts as absent. -/
def locationTimestamp (v : Value) : Except Fault Value :=
  if !v.truthy then .ok .null
  else match v with
    | .str s => do
      match ← readTimestamp s with
      | some t => return t.toValue
      | none => return .null
    | _ => .error (.badType s!"argument 1 must be str, not {v.kind}")

/-- A coordinate of a position: the latitude at 0, the longitude at 1. -/
def coordinateAt (pos : Option Coordinates) (i : Nat) : Value :=
  match pos with
  | some (lat, lon) => .float (if i == 0 then lat else lon)
  | none => .null

/-- The properties of an entity, from the coordinator's data. -/
def VehicleEntity.properties (e : VehicleEntity) (data : Option Car) : List (String × Value) :=
  let value (k : String) : Value := (data.bind fun c => c.values.lookup k).getD .null
  let location (ch : String) : Value := (data.map fun c => c.location.get ch).getD .null
  let control (k : String) : Value := (data.map fun c => c.controls.get k).getD .null
  let position (ch : String) : Option Coordinates :=
    data.bind fun c => if ch == "position" then c.location.position else c.location.storedPosition
  match e with
  | .channelSensor c => [("native_value", value c.key)]
  | .locationTime ch _ =>
    [("device_class", .str "timestamp"),
     ("native_value", propertyValue (locationTimestamp (location ch)) Fault.toValue)]
  | .aggregateSensor _ flag _ =>
    [("is_on", (data.map fun c => Value.bool (flag.of c.aggregate)).getD .null)]
  | .channelSwitch c => [("is_on", value c.key)]
  | .tracker ch =>
    [("latitude", coordinateAt (position ch) 0), ("longitude", coordinateAt (position ch) 1),
     ("source_type", .str "gps")]
  | .doorLock => [("is_locked", control "lock")]
  | .control c _ _ => [("assumed_state", .bool true), ("is_on", control c)]
  | .refresh => [("entity_category", .str "diagnostic")]

/-- The entity as the hub shows it. -/
def VehicleEntity.view (e : VehicleEntity) (w : PolledCar) : EntityView :=
  let vin := w.car.vin
  { className := e.className, uniqueId := e.uniqueId vin, name := .str e.name,
    icon := Value.ofOption e.icon,
    deviceInfo := deviceInfo vin w.car.details w.client.config.brand,
    properties := e.properties w.coordinator.data }

/-- The action `action` of an entity; none when its class has no such action. -/
def VehicleEntity.act (e : VehicleEntity) (action : String) : Option (PollM Unit) :=
  match e, action with
  | .doorLock, "lock" => some (pollLock (.bool true))
  | .doorLock, "unlock" => some (pollLock (.bool false))
  | .control c _ _, "turn_on" => some (switchControl c (.bool true))
  | .control c _ _, "turn_off" => some (switchControl c (.bool false))
  | .refresh, "press" => some pollRequestRefresh
  | _, _ => none
where
  /-- Switches the control named `c`. -/
  switchControl (c : String) (on : Value) : PollM Unit :=
    match c with
    | "climater" => pollClimatisation on
    | "windowHeat" => pollWindowHeating on
    | "preHeater" => pollPreHeating on
    | _ => pure ()

end ConnectedHome.Vehicle
