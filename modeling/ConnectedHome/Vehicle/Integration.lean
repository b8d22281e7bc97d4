import ConnectedHome.Vehicle.Flows
import ConnectedHome.Hub.Integration
/-!
# The vehicle integration in the configuration file

The configuration file may hold an account with its vehicles (`carConfigValidator`): user name
and password, a brand (Audi by default) and a country (DE by default), and for every vehicle its
identification number, optionally a name and a security PIN, and a scan interval of at least
300 seconds (900 by default).  Other sections of the file are left alone.

Setting the integration up (`carSetup`) checks the file and starts an import flow for every
vehicle: its number upper-cased, named after itself unless it has a name, without a PIN unless
it has one.
-/
namespace ConnectedHome.Vehicle

open Hub

/-- The keys of a vehicle in the configuration file. -/
def vehicleKeys : List (SchemaKey × Validator) :=
  [({ name := "vin", required := true }, .text),
   ({ name := "name", required := false }, .text),
   ({ name := "spin", required := false }, .text),
   ({ name := "scan_interval", required := false, default := some (.int defaultScanInterval) },
    .all [.all [.wholeNumber, .range (some 0) none], .range (some minScanInterval) none])]

/-- The keys of the account in the configuration file. -/
def accountKeys : List (SchemaKey × Validator) :=
  [({ name := "username", required := true }, .text),
   ({ name := "password", required := true }, .text),
   ({ name := "brand", required := false, default := some (.str brandAudi) }, .oneOf brands),
   ({ name := "country", required := false, default := some (.str "DE") }, .text),
   ({ name := "vehicles", required := false, default := some (.list []) },
    .listOf (.object vehicleKeys false))]

/-- What the configuration file may say about the integration. -/
def carConfigValidator : Validator :=
  .object [({ name := carDomain, required := false }, .object accountKeys false)] true

/-- The data of the entry imported for one vehicle of an account. -/
def importedVehicle (account vehicle : Value) : Value :=
  let vin := Text.upper (vehicle.fieldD "vin").display
  .obj [("username", account.fieldD "username"), ("password", account.fieldD "password"),
    ("brand", (account.field? "brand").getD (.str brandAudi)),
    ("country", (account.field? "country").getD (.str "DE")), ("vin", .str vin),
    ("name", (vehicle.field? "name").getD (.str vin)), ("spin", (vehicle.field? "spin").getD (.str "")),
    ("scan_interval", (vehicle.field? "scan_interval").getD (.int defaultScanInterval))]

/-- Sets the integration up from the configuration file `config`. -/
def carSetup (config : Value) : CarHomeM Bool := do
  let config ← Exec.lift (carConfigValidator.validate config)
  match config.field? carDomain with
  | none => return true
  | some account =>
    let vehicles := match account.fieldD "vehicles" with
      | .list vs => vs
      | _ => []
    for v in vehicles do
      startConfigFlow carDomain (.obj [("source", .str "import")]) (importedVehicle account v)
        carImportStep
    return true

/-- The vehicle integration.  It offers no service and listens to no packet. -/
def carIntegration : Integration Unit PolledCar where
  domain := carDomain
  configFlowName := "CarNetConfigFlow"
  optionsFlowName := "CarNetOptionsFlowHandler"
  setup := carSetup
  setupEntry := carSetupEntry
  unloadEntry := carUnloadEntry
  release _ := pure ()
  optionsUpdated := carOptionsUpdated
  configStep := carConfigStep
  optionsStep := carOptionsStep
  handleService service _ := throw (.hub .serviceNotFound s!"Service {carDomain}.{service} not found.")
  packet _ := pure ()
  runtimeValue := carRuntimeValue
  sharedMembers _ := []

end ConnectedHome.Vehicle
