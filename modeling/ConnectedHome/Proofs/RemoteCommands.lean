import ConnectedHome.Proofs.GuardedActions
import ConnectedHome.Vehicle.Polling
/-!
# RemoteCommands — what a remote command through the coordinator leaves behind

The four remote commands of a vehicle (locking, climatisation, window heating and the auxiliary
heater) are one command (`Car.command`) with its own client call and control.  The coordinator runs
a command (`runAction`) and reports a failure in the hub's terms (`commandFault`).

- `Car.command_run'`, `runAction_run'`: the command and the coordinator's run of it, unpacked;
- `runCommand_law`: the client and the outside world are as the client's call left them; an accepted
  command records the requested state of its control and asks for exactly one refresh; a failed one
  leaves the vehicle and the coordinator as they were;
- `commandFault_cases`: a failure of the service becomes a failed command (`HomeAssistantError`)
  named after the command, and every other fault passes unchanged;
- `actionSecurityToken_nonHexPin`: a PIN that does not read as hexadecimal fails the PIN phase of a
  guarded command with a `ValueError` as soon as the vehicle asks for it, so such a command never
  reaches the hub as a failed command;
- `remoteCommand_law`: the four commands together.
-/
namespace ConnectedHome
namespace Vehicle

open Hub

/-! ## One command -/

theorem Car.command_run' (call : String → Bool → ClientM ActionReply) (set : Controls → Value → Controls)
    (on : Value) (w : CarWorld) :
    (Car.command call set on).run' w =
      match (call w.car.vin on.truthy).run' ⟨w.client, w.outside⟩ with
      | (.ok _, cw) =>
        (.ok (), { w with client := cw.client, outside := cw.outside,
                          car := { w.car with controls := set w.car.controls on } })
      | (.error f, cw) => (.error f, { w with client := cw.client, outside := cw.outside }) := by
  simp only [Car.command, car, viaClient, modifyCar, Exec.discard_eq_bind, Exec.run'_bind, Exec.run'_get,
    Exec.run'_pure, Exec.run'_focus]
  rcases (call w.car.vin on.truthy).run' ⟨w.client, w.outside⟩ with ⟨_ | _, cw⟩ <;> rfl

theorem runAction_run' (name : String) (act : CarM Unit) (w : PolledCar) :
    (runAction name act).run' w =
      match act.run' ⟨w.client, w.car, w.outside⟩ with
      | (.ok (), cw) =>
        (.ok (), { w with client := cw.client, car := cw.car, outside := cw.outside,
                          coordinator := w.coordinator.requestRefresh })
      | (.error f, cw) =>
        (.error (commandFault name f), { w with client := cw.client, car := cw.car, outside := cw.outside }) := by
  simp only [runAction, viaCar, modifyCoordinator, Exec.run'_bind, Exec.run'_attempt, Exec.run'_focus]
  rcases act.run' ⟨w.client, w.car, w.outside⟩ with ⟨_ | ⟨⟩, cw⟩ <;> rfl

/-- A command through the coordinator, unpacked down to the client's call. -/
theorem runCommand_run' (name : String) (call : String → Bool → ClientM ActionReply)
    (set : Controls → Value → Controls) (on : Value) (w : PolledCar) :
    (runAction name (Car.command call set on)).run' w =
      match (call w.car.vin on.truthy).run' ⟨w.client, w.outside⟩ with
      | (.ok _, cw) =>
        (.ok (), { w with client := cw.client, outside := cw.outside,
                          car := { w.car with controls := set w.car.controls on },
                          coordinator := w.coordinator.requestRefresh })
      | (.error f, cw) => (.error (commandFault name f), { w with client := cw.client, outside := cw.outside }) := by
  rw [runAction_run', Car.command_run']
  -- the vehicle the command runs on is `w`'s, so the call is the one the law names
  rcases (call w.car.vin on.truthy).run' ⟨w.client, w.outside⟩ with ⟨_ | _, cw⟩ <;> rfl

/-- **What a command through the coordinator leaves behind**, from polled vehicle `w` to `w'` with
result `res`, when the client's call of the command, run on the client and the outside world of `w`,
ends as `call` says.  The client and the outside world are as the call left them.  An accepted
command returns, records `on` as the requested state of its control (`set`) and asks for exactly one
refresh; a failed one fails with the fault `commandFault` makes of the call's fault, and leaves the
vehicle and the coordinator as they were. -/
def CommandLaw (name : String) (set : Controls → Value → Controls) (on : Value) (w : PolledCar)
    (call : Except Fault ActionReply × ClientWorld) (res : Except Fault Unit) (w' : PolledCar) : Prop :=
  w'.client = call.2.client ∧ w'.outside = call.2.outside ∧
  (∀ reply, call.1 = .ok reply → res = .ok () ∧
    w'.car = { w.car with controls := set w.car.controls on } ∧
    w'.coordinator = w.coordinator.requestRefresh) ∧
  (∀ f, call.1 = .error f → res = .error (commandFault name f) ∧ w'.car = w.car ∧ w'.coordinator = w.coordinator)

theorem runCommand_law (name : String) (call : String → Bool → ClientM ActionReply)
    (set : Controls → Value → Controls) (on : Value) (w : PolledCar) :
    CommandLaw name set on w ((call w.car.vin on.truthy).run' ⟨w.client, w.outside⟩)
      ((runAction name (Car.command call set on)).run' w).1 ((runAction name (Car.command call set on)).run' w).2 := by
  rw [runCommand_run']
  rcases (call w.car.vin on.truthy).run' ⟨w.client, w.outside⟩ with ⟨_ | reply, cw⟩
  · refine ⟨rfl, rfl, fun _ h => ?_, fun f h => ?_⟩
    · cases h
    · cases h
      exact ⟨rfl, rfl, rfl⟩
  · refine ⟨rfl, rfl, fun _ _ => ⟨rfl, rfl, rfl⟩, fun _ h => ?_⟩
    cases h

/-- **A failed command in the hub's terms**: a failure of the service is a failed command named
after the command; every other fault passes unchanged. -/
theorem commandFault_cases (name : String) (f : Fault) :
    (f.isVehicle = true ∧ commandFault name f = .hub .command s!"CarNet {name} failed: {f.message}" ∧
      (commandFault name f).className = "HomeAssistantError") ∨
    (f.isVehicle = false ∧ commandFault name f = f) := by
  cases h : f.isVehicle
  · exact .inr ⟨rfl, by simp [commandFault, h]⟩
  · exact .inl ⟨rfl, by simp [commandFault, h], by simp [commandFault, h, Fault.className]⟩

/-! ## A PIN that is not hexadecimal -/

/-- The answer of a PIN that does not read as hexadecimal fails as reading it does, whatever the
challenge. -/
theorem pinHashOf_of_pin_error {pin : String} {challenge : Value} {f : Fault} (h : hexBytes (evenPin pin) = .error f) :
    pinHashOf pin challenge = .error f := by
  simp [pinHashOf, h, bind, Except.bind]

/-- Text that is no list of hexadecimal pairs fails with the `ValueError` that names the position of
its first misplaced character. -/
theorem hexBytes_error {s : String} {f : Fault} (h : hexBytes s = .error f) : ∃ pos, f = hexFault pos := by
  unfold hexBytes at h
  cases hr : Text.readHexBytes s with
  | ok bytes => rw [hr] at h; cases h
  | error pos =>
    rw [hr] at h
    cases h
    exact ⟨pos, rfl⟩

/-- **A PIN that is not hexadecimal cannot answer a challenge.**  When the home region answers the PIN
request of `action` with a challenge text and a token, and the account has a PIN that does not read as
hexadecimal, the PIN phase fails with the fault of reading the PIN, a `ValueError`, and sends nothing
more. -/
theorem actionSecurityToken_nonHexPin {vin action ch : String} {hs : List (String × String)}
    {w w1 w2 : ClientWorld} {text : String} {info : PinChallenge} {f : Fault}
    (h1 : homeRegionHeaders.run' w = (.ok hs, w1))
    (h2 : (request (pinRequest vin action hs)).run' w1 = (.ok text, w2))
    (h3 : (do PinChallenge.read (← parseObject text)) = .ok info)
    (hch : info.challenge = .str ch) (hasked : ch ≠ "") (htoken : info.securityToken.truthy = true)
    (hspin : w.client.config.spin ≠ "") (hpin : hexBytes (evenPin w.client.config.spin) = .error f) :
    (actionSecurityToken vin action).run' w = (.error f, w2) ∧ f.className = "ValueError" := by
  refine ⟨?_, by obtain ⟨pos, rfl⟩ := hexBytes_error hpin; rfl⟩
  -- the two requests before the answer keep the account, and with it the PIN
  have hcfg : w2.client.config = w.client.config := by
    have c1 := (Sends.homeRegionHeaders tokenRequestsAre_true w).1
    have c2 := (show Sends (fun _ => True) (request (pinRequest vin action hs)) fun _ => True from
      Sends.request fun _ _ => trivial) w1 |>.1
    rw [h1] at c1
    rw [h2] at c2
    rw [c2, c1]
  have hasks : info.challenge.truthy = true := by simpa [hch, Value.truthy] using hasked
  rw [actionSecurityToken_run', h1]
  dsimp only
  rw [h2]
  dsimp only
  rw [h3]
  dsimp only
  rw [if_pos hasks, answerChallenge_run', hcfg, if_neg (by simpa using hspin), if_neg (by simp [htoken]),
    pinHashOf_of_pin_error hpin]

/-! ## The four commands -/

/-- **The remote commands through the coordinator**, from every polled vehicle and for every requested
state `on`: locking (named `lock` or `unlock` by the request), climatisation, window heating and the
auxiliary heater each do what `CommandLaw` says with their own call, name and control; a failed
command reaches the hub as a failed command exactly when its fault is a failure of the service, and
as the fault itself otherwise; and a lock whose PIN phase meets a challenge under a PIN that is not
hexadecimal fails with that `ValueError`, unchanged, leaving the vehicle and the coordinator as they
were. -/
theorem remoteCommand_law (w : PolledCar) (on : Value) :
    CommandLaw (if on.truthy then "lock" else "unlock") (fun cs v => { cs with lock := v }) on w
      ((lockDoor w.car.vin on.truthy).run' ⟨w.client, w.outside⟩) ((pollLock on).run' w).1 ((pollLock on).run' w).2 ∧
    CommandLaw "climatisation" (fun cs v => { cs with climater := v }) on w
      ((climaControl w.car.vin on.truthy).run' ⟨w.client, w.outside⟩)
      ((pollClimatisation on).run' w).1 ((pollClimatisation on).run' w).2 ∧
    CommandLaw "window heating" (fun cs v => { cs with windowHeat := v }) on w
      ((controlWindowHeating w.car.vin on.truthy).run' ⟨w.client, w.outside⟩)
      ((pollWindowHeating on).run' w).1 ((pollWindowHeating on).run' w).2 ∧
    CommandLaw "pre-heating" (fun cs v => { cs with preHeater := v }) on w
      ((controlPreHeating w.car.vin on.truthy).run' ⟨w.client, w.outside⟩)
      ((pollPreHeating on).run' w).1 ((pollPreHeating on).run' w).2 ∧
    (∀ name f, (f.isVehicle = true ∧ commandFault name f = .hub .command s!"CarNet {name} failed: {f.message}" ∧
      (commandFault name f).className = "HomeAssistantError") ∨ (f.isVehicle = false ∧ commandFault name f = f)) ∧
    (∀ hs w1 text w2 info ch f, homeRegionHeaders.run' ⟨w.client, w.outside⟩ = (.ok hs, w1) →
      (request (pinRequest w.car.vin (if on.truthy then lockAction else unlockAction) hs)).run' w1 = (.ok text, w2) →
      (do PinChallenge.read (← parseObject text)) = .ok info → info.challenge = .str ch → ch ≠ "" →
      info.securityToken.truthy = true → w.client.config.spin ≠ "" →
      hexBytes (evenPin w.client.config.spin) = .error f →
      (pollLock on).run' w = (.error f, { w with client := w2.client, outside := w2.outside }) ∧
        f.className = "ValueError") := by
  refine ⟨runCommand_law _ _ _ on w, runCommand_law _ _ _ on w, runCommand_law _ _ _ on w,
    runCommand_law _ _ _ on w, commandFault_cases, ?_⟩
  intro hs w1 text w2 info ch f h1 h2 h3 hch hasked htoken hspin hpin
  obtain ⟨hphase, hvalue⟩ := actionSecurityToken_nonHexPin h1 h2 h3 hch hasked htoken hspin hpin
  -- the lock stops at its PIN phase, and a `ValueError` is no failure of the service
  have hlock : (lockDoor w.car.vin on.truthy).run' ⟨w.client, w.outside⟩ = (.error f, w2) := by
    simp only [lockDoor, guardedAction, Exec.run'_bind, hphase]
  have hnv : f.isVehicle = false := by
    obtain ⟨pos, rfl⟩ := hexBytes_error hpin
    rfl
  refine ⟨?_, hvalue⟩
  rw [pollLock, Car.lock, runCommand_run', hlock]
  simp [commandFault, hnv]

end Vehicle
end ConnectedHome
