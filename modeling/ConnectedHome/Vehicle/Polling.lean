import ConnectedHome.Vehicle.Car
import ConnectedHome.Vehicle.ServiceErrors
import ConnectedHome.Hub.Coordinator
/-!
# Polling a vehicle

The hub polls a vehicle through a coordinator (`PolledCar`): an update of the vehicle
(`Car.update`) becomes the coordinator's data.  A failed update is reported to the hub in its
terms (`updateFault`):

* refused credentials ask the user to authenticate again;
* a service that is disabled on the vehicle's side is a pending configuration, reported with
  the service's readable message;
* any other failure of the service is a failed update;
* faults that are not failures of the service pass unchanged.

Remote actions run through the coordinator too (`runAction`): a failure of the service is a
failed command named after the action, and an accepted action asks for a refresh.
-/
namespace ConnectedHome.Vehicle

open Hub

/-- A vehicle with its client, its coordinator and the outside world. -/
structure PolledCar where
  client : VehicleClient
  car : Car
  coordinator : Coordinator Car
  outside : Outside
deriving Inhabited

/-- Computations of a polled vehicle. -/
abbrev PollM := Exec PolledCar

/-- Runs a computation about the vehicle. -/
def viaCar {α : Type} (x : CarM α) : PollM α :=
  Exec.focus (fun w => ⟨w.client, w.car, w.outside⟩)
    (fun w cw => { w with client := cw.client, car := cw.car, outside := cw.outside }) x

/-- Changes the coordinator. -/
def modifyCoordinator (f : Coordinator Car → Coordinator Car) : PollM Unit :=
  modify fun w => { w with coordinator := f w.coordinator }

/-- A failed update in the hub's terms. -/
def updateFault (f : Fault) : Fault :=
  match f with
  | .vehicle .authentication msg _ => .hub .authFailed s!"CarNet authentication failed: {msg}"
  | .vehicle _ msg x =>
    if x.report.configurationPending then
      .hub .updateFailed s!"Configuration pending: {x.report.readableMessage}"
    else .hub .updateFailed s!"CarNet update failed: {msg}"
  | other => other

/-- Updates the vehicle and makes its state the coordinator's data. -/
def pollUpdate : PollM Car := do
  match ← Exec.attempt (viaCar Car.update) with
  | .ok () =>
    let c := (← get).car
    modifyCoordinator fun k => { k with data := some c }
    return c
  | .error f => throw (updateFault f)

/-- A failed remote action named `name` in the hub's terms: a failure of the service is a failed
command; any other fault passes unchanged. -/
def commandFault (name : String) (f : Fault) : Fault :=
  if f.isVehicle then .hub .command s!"CarNet {name} failed: {f.message}" else f

/-- Runs a remote action named `name`; an accepted action asks for a refresh. -/
def runAction (name : String) (act : CarM Unit) : PollM Unit := do
  match ← Exec.attempt (viaCar act) with
  | .ok () => modifyCoordinator Coordinator.requestRefresh
  | .error f => throw (commandFault name f)

/-- Locks or unlocks the vehicle. -/
def pollLock (on : Value) : PollM Unit :=
  runAction (if on.truthy then "lock" else "unlock") (Car.lock on)

/-- Starts or stops climatisation. -/
def pollClimatisation (on : Value) : PollM Unit := runAction "climatisation" (Car.setClimatisation on)

/-- Starts or stops window heating. -/
def pollWindowHeating (on : Value) : PollM Unit := runAction "window heating" (Car.setWindowHeating on)

/-- Starts or stops the auxiliary heater. -/
def pollPreHeating (on : Value) : PollM Unit := runAction "pre-heating" (Car.setPreHeating on)

/-- Asks for a refresh. -/
def pollRequestRefresh : PollM Unit := modifyCoordinator Coordinator.requestRefresh

theorem updateFault_authentication (msg : String) (x : Exchange) :
    updateFault (.vehicle .authentication msg x) =
      .hub .authFailed s!"CarNet authentication failed: {msg}" := rfl

end ConnectedHome.Vehicle
