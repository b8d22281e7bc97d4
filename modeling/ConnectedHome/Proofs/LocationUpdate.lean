import ConnectedHome.Vehicle.Car
import ConnectedHome.Proofs.ReadFaults
import ConnectedHome.Proofs.ServiceResponses
import ConnectedHome.Proofs.ResponseText
import ConnectedHome.Proofs.AddressRouting
/-!
# LocationUpdate — what reading the location leaves behind

Reading the location (`updateLocation`) asks for the parking position, converts its coordinates
and writes them, then asks for the current position, converts its coordinates and writes them with
the two times of the report.  Only a failure of the vehicle service resets the location: it clears
all four entries and is passed on unless the service said there is no position (status 204).  Any
other fault, such as a coordinate sent as text that is no whole number, is passed on as it is and
leaves the entries as they were written before it: the parking position of this read stays next to
the current position and times of an earlier one.

- `LocationStop`: how a read that stopped with a fault ends;
- `coordinatesOf_fails`: a coordinate that cannot be converted is never a failure of the service;
- `locationUpdate_law`: for every vehicle world, what the read leaves at each of the four points
  where it can stop, and when it does not stop;
- `locationUpdate_textLatitudeKeepsPosition`: a read whose current position has a latitude sent as
  text that is no number is passed on; it leaves this read's parking position next to the current
  position and times of an earlier read, so a failed read does not always leave the entries empty.
-/
namespace ConnectedHome
namespace Vehicle

/-- The location both position reports give: the current position with the time it was received
and the parking time of the current report, and the parking position. -/
def Location.ofReports (storedAt currentAt : Option Coordinates) (current : PositionReport) : Location :=
  { position := currentAt, storedPosition := storedAt, positionLastUpdate := current.timestampTssReceived,
    parkingTime := current.parkingTimeUtc }

/-- **How a read of the location that stopped with fault `f` ends**, when the entries written
before the fault are `kept`: a failure of the vehicle service clears all four entries and is passed
on unless its status is 204; any other fault is passed on and leaves the entries as written. -/
def LocationStop (f : Fault) (kept : Location) (res : Except Fault Unit) (l : Location) : Prop :=
  (f.isVehicle = true ∧ l = {} ∧ res = if exchangeStatus f = some 204 then .ok () else .error f) ∨
  (f.isVehicle = false ∧ l = kept ∧ res = .error f)

/-- **What a read of the location leaves**, from vehicle world `w` to `w'` with result `res`, when
the parking position's call, run on the client and outside world of `w`, ends as `stored` says, and
the current position's call, run on what that call left, ends as `current` says.  Only the location
of the vehicle changes.  The read stops at the first of the two calls and the two conversions that
fails, as `LocationStop` says, with the parking position of this read kept once it was written, and
the client and the outside world as the last call left them; when nothing fails, the four entries
are those of the two reports. -/
def LocationLaw (w : CarWorld) (stored current : Except Fault PositionReport × ClientWorld)
    (res : Except Fault Unit) (w' : CarWorld) : Prop :=
  { w'.car with location := w.car.location } = w.car ∧
  match stored.1 with
  | .error f =>
    LocationStop f w.car.location res w'.car.location ∧ w'.client = stored.2.client ∧ w'.outside = stored.2.outside
  | .ok p =>
    match coordinatesOf p with
    | .error f =>
      LocationStop f w.car.location res w'.car.location ∧ w'.client = stored.2.client ∧
        w'.outside = stored.2.outside
    | .ok sa =>
      match current.1 with
      | .error f =>
        LocationStop f { w.car.location with storedPosition := sa } res w'.car.location ∧
          w'.client = current.2.client ∧ w'.outside = current.2.outside
      | .ok q =>
        match coordinatesOf q with
        | .error f =>
          LocationStop f { w.car.location with storedPosition := sa } res w'.car.location ∧
            w'.client = current.2.client ∧ w'.outside = current.2.outside
        | .ok ca =>
          res = .ok () ∧ w'.car.location = Location.ofReports sa ca q ∧ w'.client = current.2.client ∧
            w'.outside = current.2.outside

/-- A coordinate that cannot be converted fails by a refusal or an overflow of the conversion, never
by a failure of the vehicle service. -/
theorem coordinatesOf_fails (p : PositionReport) : FailsOnly (fun f => f.isVehicle = false) (coordinatesOf p) := by
  have hcoord : ∀ v, FailsOnly (fun f => f.isVehicle = false) (coordinateOf v) := by
    intro v
    unfold coordinateOf
    split
    · exact FailsOnly.ok
    · refine FailsOnly.bind (FailsOnly.mono (Value.toInt_fails _) ?_) fun _ _ =>
        FailsOnly.bind ?_ fun _ _ => FailsOnly.pure
      · intro f hf
        rcases hf with hf | hf <;> cases f <;> simp_all [Fault.isConversionRefusal, Fault.isOverflow, Fault.isVehicle]
      · unfold Number.intToFloat
        dsimp only
        split
        · exact FailsOnly.ok
        · exact FailsOnly.error rfl
  -- the latitude is converted first, and the longitude only when there is a latitude
  unfold coordinatesOf
  refine FailsOnly.bind (hcoord _) fun lat _ => ?_
  cases lat with
  | none => exact FailsOnly.pure
  | some a => exact FailsOnly.bind (hcoord _) fun lon _ => by cases lon <;> exact FailsOnly.pure

@[simp] theorem run'_modifyCar (f : Car → Car) (w : CarWorld) :
    (modifyCar f).run' w = (.ok (), { w with car := f w.car }) := rfl

/-- **A read that stopped with fault `f`**, in the world `w` it reached, ends as `LocationStop` says
with the entries of `w` kept, and changes nothing else. -/
theorem locationStop_run' (f : Fault) (w : CarWorld) :
    let r := (if f.isVehicle = true then do
        modifyCar fun c => { c with location := {} }
        if (exchangeStatus f != some 204) = true then throw f else pure ()
      else throw f : CarM Unit).run' w
    LocationStop f w.car.location r.1 r.2.car.location ∧ { r.2.car with location := w.car.location } = w.car ∧
      r.2.client = w.client ∧ r.2.outside = w.outside := by
  intro r
  cases hv : f.isVehicle
  · simp [r, hv, LocationStop]
  · by_cases h204 : exchangeStatus f = some 204 <;> simp [r, hv, h204, LocationStop, Exec.run'_bind]

/-- **Reading the location**, from every vehicle world: what `LocationLaw` says, for the calls of
this read. -/
theorem locationUpdate_law (w : CarWorld) :
    LocationLaw w ((getStoredPosition w.car.vin).run' ⟨w.client, w.outside⟩)
      ((getVehiclePosition w.car.vin).run' ((getStoredPosition w.car.vin).run' ⟨w.client, w.outside⟩).2)
      (updateLocation.run' w).1 (updateLocation.run' w).2 := by
  simp only [updateLocation, car, viaClient, Exec.run'_bind, Exec.run'_get, Exec.run'_pure, Exec.run'_attempt,
    Exec.run'_focus, Exec.run'_lift, run'_modifyCar]
  -- the read stops at the parking position's call, at its conversion, at the current position's call
  -- or at its conversion, or writes all four entries
  unfold LocationLaw
  rcases h1 : (getStoredPosition w.car.vin).run' ⟨w.client, w.outside⟩ with ⟨f | p, cw1⟩ <;> dsimp only
  · obtain ⟨hstop, hframe, hc, ho⟩ := locationStop_run' f ⟨cw1.client, w.car, cw1.outside⟩
    exact ⟨hframe, hstop, hc, ho⟩
  rcases h2 : coordinatesOf p with f | sa <;> dsimp only
  · obtain ⟨hstop, hframe, hc, ho⟩ := locationStop_run' f ⟨cw1.client, w.car, cw1.outside⟩
    exact ⟨hframe, hstop, hc, ho⟩
  have hcw1 : (⟨cw1.client, cw1.outside⟩ : ClientWorld) = cw1 := rfl
  rw [hcw1]
  -- from here on the parking position of this read is written
  let parked : Car := { w.car with location := { w.car.location with storedPosition := sa } }
  have hparked (c : Car) (h : { c with location := parked.location } = parked) :
      { c with location := w.car.location } = w.car :=
    congrArg (fun c : Car => { c with location := w.car.location }) h
  rcases h3 : (getVehiclePosition w.car.vin).run' cw1 with ⟨f | q, cw2⟩ <;> dsimp only
  · obtain ⟨hstop, hframe, hc, ho⟩ := locationStop_run' f ⟨cw2.client, parked, cw2.outside⟩
    exact ⟨hparked _ hframe, hstop, hc, ho⟩
  rcases h4 : coordinatesOf q with f | ca <;> dsimp only
  · obtain ⟨hstop, hframe, hc, ho⟩ := locationStop_run' f ⟨cw2.client, parked, cw2.outside⟩
    exact ⟨hparked _ hframe, hstop, hc, ho⟩
  · exact ⟨rfl, rfl, rfl, rfl, rfl⟩

/-- The answer of the parking position without coordinates. -/
def storedWithoutCoordinates : String :=
  "\x7b\"storedPositionResponse\":\x7b\"position\":\x7b\"carCoordinate\":\x7b\x7d\x7d\x7d\x7d"

/-- The answer of the current position with a latitude sent as text that is no number. -/
def positionWithTextLatitude : String :=
  "\x7b\"findCarResponse\":\x7b\"Position\":\x7b\"carCoordinate\":\x7b\"latitude\":\"abc\"\x7d\x7d\x7d\x7d"

theorem coordinatesOf_none : coordinatesOf {} = .ok none := rfl

/-- **A failed read can leave a mixed location**: the parking position comes without coordinates and
is written, then the current position comes with a latitude that is no number.  Converting it
fails, which is no failure of the vehicle service, so the fault is passed on, and the current
position and its times of an earlier read stay next to this read's parking position. -/
theorem locationUpdate_textLatitudeKeepsPosition :
    let a : AccountConfig := { user := "user", password := "secret", brand := "Audi", country := "DE", vin := "V" }
    let earlier : Location :=
      { position := some (48.1, 11.1), storedPosition := some (48.0, 11.0),
        positionLastUpdate := .str "2024-01-01T10:00:00Z", parkingTime := .str "2024-01-01T09:00:00Z" }
    let w : CarWorld :=
      { client := { config := a, apiToken := { accessToken := "at", validity := .int 3600, issuedAt := .int 0 } },
        car := { vin := "V", location := earlier },
        outside := { network := { routes := [{ uses := some 1, outcome := .answered 200 storedWithoutCoordinates "OK" },
          { outcome := .answered 200 positionWithTextLatitude "OK" }] }, clock := .int 1000 } }
    (∃ f, (updateLocation.run' w).1 = .error f ∧ f.isVehicle = false) ∧
      (updateLocation.run' w).2.car.location = { earlier with storedPosition := none } := by
  intro a earlier w
  have hlower : Text.lower "Audi" = "audi" := by
    simp [Text.lower, Text.lowerOf, Text.lowerChars, Text.capitalSigma]
  have hbase : ∃ base, a.baseUrl = .ok base := ⟨audiBaseUrl, by simp [AccountConfig.baseUrl, a, hlower]⟩
  obtain ⟨url1, hurl1⟩ := @serviceTemplate_address a hbase "V"
    (storedPositionUri, underBrand "bs/cf/v1/" [.text "/vehicles/", .field "vin", .text "/storedPosition"])
    (by decide) (by decide)
  obtain ⟨url2, hurl2⟩ := @serviceTemplate_address a hbase "V"
    (vehiclePositionUri, underBrand "bs/cf/v1/" [.text "/vehicles/", .field "vin", .text "/position"])
    (by decide) (by decide)
  have hlive : w.client.apiToken.expiredAt w.outside.clock = .ok false := rfl
  -- both answers are clean texts without an error report
  obtain ⟨⟨hc1, hc2⟩, he1, he2⟩ : (cleanResponse storedWithoutCoordinates = storedWithoutCoordinates ∧
      cleanResponse positionWithTextLatitude = positionWithTextLatitude) ∧
      storedWithoutCoordinates.contains "\"error\":" = false ∧
      positionWithTextLatitude.contains "\"error\":" = false := by
    simp only [cleanResponse_eq, String.contains_string_eq_internal]
    decide +kernel
  -- the parking position has no coordinates; the current one has a latitude that is no number
  have hr1 : (do PositionReport.read (← parseObject storedWithoutCoordinates)) = .ok {} := by rfl
  have hr2 : (do PositionReport.read (← parseObject positionWithTextLatitude)) =
      .ok { latitudeRaw := .str "abc" } := by rfl
  obtain ⟨f, hf⟩ : ∃ f, coordinatesOf { latitudeRaw := .str "abc" } = .error f := ⟨_, rfl⟩
  have hfv : f.isVehicle = false := coordinatesOf_fails _ f hf
  -- the first route answers the parking position once; the current position passes it by
  obtain ⟨cw1, h1, hcl1, hclk1, hrt1⟩ := @getObject_answered storedPositionUri "V" url1 storedWithoutCoordinates
    ⟨w.client, w.outside⟩ [] _ _ hlive rfl hurl1 rfl (by simp) (by simp [Http.Route.accepts]) rfl
    (by rw [hc1, he1]) (by rw [hc1]; decide)
  obtain ⟨cw2, h2, -, -, -⟩ := @getObject_answered vehiclePositionUri "V" url2 positionWithTextLatitude cw1
    [{ uses := some 1, outcome := .answered 200 storedWithoutCoordinates "OK" : Http.Route }.spend] _ _
    (by rw [hcl1, hclk1]; exact hlive) (by rw [hcl1]) (by rw [hcl1]; exact hurl2) hrt1
    (by simp [Http.Route.accepts, Http.Route.spend]) (by simp [Http.Route.accepts]) rfl (by rw [hc2, he2])
    (by rw [hc2]; decide)
  have hs1 : (getStoredPosition w.car.vin).run' ⟨w.client, w.outside⟩ = (.ok {}, cw1) := by
    show (getStoredPosition "V").run' _ = _
    rw [getStoredPosition, Exec.run'_bind_lift, h1, hc1]
    exact Prod.ext hr1 rfl
  have hs2 : (getVehiclePosition w.car.vin).run' cw1 = (.ok { latitudeRaw := .str "abc" }, cw2) := by
    show (getVehiclePosition "V").run' _ = _
    rw [getVehiclePosition, Exec.run'_bind_lift, h2, hc2]
    exact Prod.ext hr2 rfl
  -- the read writes this read's parking position, then stops at the latitude
  simp only [updateLocation, car, viaClient, Exec.run'_bind, Exec.run'_get, Exec.run'_pure, Exec.run'_attempt,
    Exec.run'_focus, Exec.run'_lift, run'_modifyCar, hs1]
  have hcw1 : (⟨cw1.client, cw1.outside⟩ : ClientWorld) = cw1 := rfl
  simp only [coordinatesOf_none, hcw1, hs2, hf, hfv, Bool.false_eq_true, if_false, Exec.run'_throw]
  exact ⟨⟨f, rfl, hfv⟩, rfl⟩

end Vehicle
end ConnectedHome
