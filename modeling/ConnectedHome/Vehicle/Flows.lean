import ConnectedHome.Hub.FlowRun
import ConnectedHome.Vehicle.HubEntry
/-!
# Configuring a vehicle account

The configuration flow of the vehicle integration (`carConfigStep`):

* `user` asks for the account (user name, password, brand, country, and optionally the vehicle
  and the security PIN).  It logs in and takes the vehicle given, upper-cased, or else the
  first vehicle of the account (`checkAccount`).  A refused login shows `invalid_auth`, an
  unreachable service `cannot_connect` and any other failure of the service (no vehicle
  included) `no_vehicle`.  The vehicle is the entry's unique id; the title is the brand and the
  vehicle.
* `import` takes an account from the configuration file as it is: the vehicle is the unique id
  and the name, or `CarNet <vehicle>`, the title.  Nothing is checked online.
* `reauth` and `reauth_confirm` ask for a new password (and PIN) of the entry the flow names,
  log in with the entry's data updated by the answer and, once that works, replace the entry's
  data (`invalid_auth` for a refused login, `cannot_connect` for any other failure).

The options flow asks for the scan interval, a whole number of seconds from 300 to 86400, its
current value offered (`carOptionsStep`).
-/
namespace ConnectedHome.Vehicle

open Hub

/-- Computations of a vehicle flow. -/
abbrev CarFlowM := FlowM Unit PolledCar

/-- The fields of the account form. -/
def userFields : FormFields :=
  [({ name := "username", required := true }, .text),
   ({ name := "password", required := true }, .text),
   ({ name := "brand", required := true, default := some (.str brandAudi) }, .oneOf brands),
   ({ name := "country", required := true, default := some (.str "DE") }, .text),
   ({ name := "vin", required := false }, .text),
   ({ name := "spin", required := false }, .text)]

/-- The fields of the form asking for new credentials. -/
def reauthFields : FormFields :=
  [({ name := "password", required := true }, .text), ({ name := "spin", required := false }, .text)]

/-- The fewest seconds between updates. -/
def minScanInterval : Int := 300

/-- The most seconds between updates. -/
def maxScanInterval : Int := 86400

/-- The fields of the options form of an entry. -/
def optionsFields (e : ConfigEntry) : FormFields :=
  [({ name := "scan_interval", required := false, default := some (scanIntervalOf e) },
    .all [.wholeNumber, .range (some minScanInterval) (some maxScanInterval)])]

/-- Runs a computation of a client of `config` on the hub's outside world. -/
def flowClient {α : Type} (config : AccountConfig) (x : ClientM α) : CarFlowM α := do
  let (r, _) ← viaHub (onClient { config } x)
  Exec.lift r

/-- Logs in with the account `data` describes; the vehicle it names, upper-cased, or else the
first vehicle of the account. -/
def checkAccount (data : Value) : CarFlowM String := do
  let config ← Exec.lift (AccountConfig.ofEntry data)
  flowClient config do
    connect
    let given := data.fieldD "vin"
    if given.truthy then
      return Text.upper (← Exec.lift (vinText given))
    else
      match (← getVehicles).vins with
      | [] => throw (Fault.vehicleGeneral "No vehicle registered for this account")
      | v :: _ => return Text.upper v

/-- An object with member `k` written. -/
def withMember (v : Value) (k : String) (x : Value) : Value :=
  match v with
  | .obj ms => .obj (Members.put ms k x)
  | _ => v

/-- The account form with the errors of the last attempt. -/
def userForm (errors : List (String × String)) : FlowResult := .form "user" userFields (some errors)

/-- The `user` step. -/
def carUserStep (input : Value) : CarFlowM FlowResult := do
  if input.isNull then return userForm []
  match ← Exec.attempt (checkAccount input) with
  | .ok vin =>
    chooseUniqueId (.str vin)
    if ← uniqueIdTaken then return .abort "already_configured"
    let brand := (input.field? "brand").getD (.str brandAudi)
    return .createEntry (.str s!"{brand.display} {vin}") (withMember input "vin" (.str vin))
  | .error f =>
    match f with
    | .vehicle .authentication _ _ => return userForm [("base", "invalid_auth")]
    | .vehicle .connection _ _ => return userForm [("base", "cannot_connect")]
    | .vehicle _ _ _ => return userForm [("base", "no_vehicle")]
    | _ => throw f

/-- The `import` step. -/
def carImportStep (data : Value) : CarFlowM FlowResult := do
  let vin ← Exec.lift (data.item "vin")
  chooseUniqueId vin
  if ← uniqueIdTaken then return .abort "already_configured"
  return .createEntry ((data.fieldD "name").orElse (.str s!"CarNet {vin.display}")) data

/-- The entry a reauthentication flow is about. -/
def reauthEntry : CarFlowM ConfigEntry := do
  let id ← Exec.lift ((← currentFlow).context.item "entry_id")
  viaHub (knownEntry id.display)

/-- An object's members updated by those of another object. -/
def mergeMembers (old new : Value) : Except Fault Value :=
  match old, new with
  | .obj ms, .obj ns => .ok (.obj (ns.foldl (fun acc m => Members.put acc m.1 m.2) ms))
  | .obj _, v => .error (.badType s!"'{v.kind}' object is not a mapping")
  | v, _ => .error (.badType s!"'{v.kind}' object is not a mapping")

/-- Whether updating `old` by the members of `new` changes it. -/
def changesMembers (old new : Value) : Bool :=
  match old, new with
  | .obj ms, .obj ns => ns.any fun (k, v) =>
    match Members.lookup ms k with
    | some w => !v.same w
    | none => true
  | _, _ => true

/-- The form asking for new credentials, with the errors of the last attempt. -/
def reauthForm (errors : List (String × String)) : FlowResult :=
  .form "reauth_confirm" reauthFields (some errors)

/-- The `reauth_confirm` step. -/
def carReauthConfirmStep (input : Value) : CarFlowM FlowResult := do
  let entry ← reauthEntry
  if input.isNull then return reauthForm []
  let data ← Exec.lift (mergeMembers entry.data input)
  match ← Exec.attempt (checkAccount data) with
  | .ok _ => updateReloadAndAbort carOptionsUpdated entry.entryId data (changesMembers entry.data input)
  | .error f =>
    match f with
    | .vehicle .authentication _ _ => return reauthForm [("base", "invalid_auth")]
    | .vehicle _ _ _ => return reauthForm [("base", "cannot_connect")]
    | _ => throw f

/-- The step of the configuration flow named `step`; none for a step the flow does not have. -/
def carConfigStep (step : String) : Option (Value → CarFlowM FlowResult) :=
  match step with
  | "user" => some carUserStep
  | "import" => some carImportStep
  | "reauth" => some fun _ => carReauthConfirmStep .null
  | "reauth_confirm" => some carReauthConfirmStep
  | _ => none

/-- The `init` step of the options flow. -/
def carOptionsInit (input : Value) : CarFlowM FlowResult := do
  if !input.isNull then return .createEntry (.str "") input
  let e ← viaHub (knownEntry (← currentFlow).handler)
  return .form "init" (optionsFields e) none

/-- The step of the options flow named `step`. -/
def carOptionsStep (step : String) : Option (Value → CarFlowM FlowResult) :=
  match step with
  | "init" => some carOptionsInit
  | _ => none

end ConnectedHome.Vehicle
