import ConnectedHome.Hub.Home
import ConnectedHome.Vehicle.Entities
/-!
# A vehicle account as an entry of the hub

An entry of the vehicle integration holds an account and the vehicle it follows.  Setting it
up (`carSetupEntry`):

1. reads the account from the entry's data and logs in, a refusal of the credentials meaning
   the entry must be authenticated again and any other failure of the service that the entry is
   not ready yet;
2. makes a coordinator that polls the vehicle at the entry's scan interval, its options' or
   else its data's, 900 seconds by default; it and the client are the entry's runtime data;
3. runs the coordinator's first update (`firstRefreshFault` says what a failure means);
4. sets up the platforms with the vehicle's entities and listens to the entry's options.

Unloading tears the platforms down and logs the client out (`carUnloadEntry`).  A changed scan
interval becomes the coordinator's and asks for a refresh, unless it is the interval already
(`carOptionsUpdated`); an interval that is no number of seconds changes nothing.
-/
namespace ConnectedHome.Vehicle

open Hub

/-- The domain of the vehicle integration. -/
def carDomain : String := "carnet"

/-- The platforms of a vehicle entry, in the order they are set up. -/
def carPlatforms : List String := ["binary_sensor", "button", "device_tracker", "lock", "sensor", "switch"]

/-- Seconds between two updates of a vehicle unless the entry says otherwise. -/
def defaultScanInterval : Int := 900

/-- The brands an account can be of. -/
def brands : List String := [brandAudi, "VW"]

instance : Wired PolledCar where
  outside w := w.outside
  rewire w o := { w with outside := o }

/-- The hub with vehicle entries. -/
abbrev CarHome := Home Unit PolledCar

/-- Computations of the hub with vehicle entries. -/
abbrev CarHomeM := HomeM Unit PolledCar

/-- The scan interval an entry asks for. -/
def scanIntervalOf (e : ConfigEntry) : Value := e.setting "scan_interval" (.int defaultScanInterval)

/-- A failed login in the hub's terms. -/
def connectFault (f : Fault) : Fault :=
  match f with
  | .vehicle .authentication msg _ => .hub .authFailed s!"CarNet authentication failed: {msg}"
  | .vehicle .connection msg _ => .notReady s!"Unable to connect to CarNet: {msg}" (some f)
  | .vehicle _ msg _ => .notReady s!"CarNet API error: {msg}" (some f)
  | _ => f

/-- Runs a computation of a client on the hub's outside world: its outcome and the client after
it. -/
def onClient {σ ρ α : Type} (c : VehicleClient) (x : ClientM α) :
    HomeM σ ρ (Except Fault α × VehicleClient) := do
  let h ← get
  let (r, w) := x.run' ⟨c, h.outside⟩
  set { h with outside := w.outside }
  return (r, w.client)

/-- The text of a vehicle identification number. -/
def vinText (v : Value) : Except Fault String :=
  match v with
  | .str s => .ok s
  | _ => .error (.noAttribute s!"'{v.kind}' object has no attribute 'upper'")

/-- Sets a vehicle entry up; see the module notes. -/
def carSetupEntry (e : ConfigEntry) : CarHomeM Bool := do
  let config ← Exec.lift (AccountConfig.ofEntry e.data)
  let (r, client) ← onClient { config } connect
  match r with
  | .error f => throw (connectFault f)
  | .ok () => pure ()
  let vin ← Exec.lift (e.data.item "vin")
  let interval ← Exec.lift (secondsMicros (scanIntervalOf e))
  let vin ← Exec.lift (vinText vin)
  putRuntime e.entryId { client, car := Car.ofVin vin, coordinator := { interval := some interval },
                         outside := (← get).outside }
  match ← Exec.attempt (onRuntime e.entryId pollUpdate) with
  | .ok _ => pure ()
  | .error f =>
    if let some w ← runtimeOf? e.entryId then
      putRuntime e.entryId { w with coordinator := { w.coordinator with lastUpdateSuccess := false } }
    throw (firstRefreshFault f)
  if let some w ← runtimeOf? e.entryId then
    for (platform, entities) in entityPlatforms w.car do
      recordForwarded e.entryId platform (entities.map (·.uniqueId w.car.vin))
  listenToOptions e.entryId
  return true

/-- Unloads a vehicle entry: its platforms are torn down and its client logs out. -/
def carUnloadEntry (e : ConfigEntry) : CarHomeM Bool := do
  recordUnloaded e.entryId carPlatforms
  onRuntime e.entryId (viaCar (Vehicle.viaClient disconnect))
  return true

/-- Tells the coordinator of entry `id` its scan interval after the options changed. -/
def carOptionsUpdated (id : String) : CarHomeM Unit := do
  let e ← knownEntry id
  let new := scanIntervalOf e
  match ← runtimeOf? id with
  | none => pure ()
  | some w =>
    match w.coordinator.interval with
    | some us =>
      if us != 0 && !(Value.float (microsSeconds us)).same new then
        match secondsMicros new with
        | .ok us' =>
          putRuntime id { w with coordinator := { w.coordinator with interval := some us' } }
          recordRefresh
        | .error _ => pure ()
    | none => pure ()

/-- The runtime data of a vehicle entry as shown. -/
def carRuntimeValue (w : PolledCar) : Value :=
  let interval := match w.coordinator.interval with
    | some us => if us == 0 then .null else Value.float (microsSeconds us)
    | none => .null
  .obj [("update_interval", interval), ("last_update_success", .bool w.coordinator.lastUpdateSuccess),
    ("connected", .bool w.client.hasSession), ("vin", .str w.car.vin), ("values", .obj w.car.values),
    ("initialized", .bool w.car.initialized)]

end ConnectedHome.Vehicle
