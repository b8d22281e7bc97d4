import ConnectedHome.Console.Answer
/-!
# Console: reading vehicle service answers

`reportAnswer` reads a document as one kind of vehicle service answer and shows the record,
with the derived values of the kinds that have them: the text and the error flag of an error
report, the coordinates and times of a position, the (block, field) pairs of a status report.
`convertAnswer` shows the conversion of one value to a kind.
-/
namespace ConnectedHome.Console

open Vehicle

/-- A position with its coordinates in degrees and its times; a coordinate that cannot be read
stands as its fault. -/
def positionValue (p : PositionReport) : Value :=
  .obj [("value", p.toValue),
    ("latitude", valueOrFault (p.latitude.map floatOption)),
    ("longitude", valueOrFault (p.longitude.map floatOption)),
    ("car_sent_time", p.timestampTssReceived), ("parking_time", p.parkingTimeUtc)]

/-- Reads `data` as the answer kind named `model`. -/
def reportAnswer (req : Value) : Value :=
  let data := req.memberOr "data" .null
  let plain (r : Except Fault Value) : Value := answerWith "value" r
  match req.textOr "model" "" with
  | "token" => plain ((IssuedToken.read data).map IssuedToken.toValue)
  | "error_message" =>
    match ErrorReport.read data with
    | .ok r => .obj [("value", r.toValue), ("is_error", .bool r.isError), ("str", .str r.text)]
    | .error f => f.toValue
  | "vehicle_list" => plain ((VehicleList.read data).map VehicleList.toValue)
  | "vehicle_details" => plain ((VehicleDetails.read data).map VehicleDetails.toValue)
  | "status_field" => plain ((StatusField.read data).map StatusField.toValue)
  | "status_data" => plain ((StatusBlock.read data).map StatusBlock.toValue)
  | "vehicle_status" =>
    match StatusReport.read data with
    | .ok r =>
      .obj [("value", r.toValue),
        ("iter_fields", .list (r.fields.map fun (b, f) => .list [.str b, .str f.id]))]
    | .error f => f.toValue
  | "position" =>
    match PositionReport.read data with
    | .ok p => positionValue p
    | .error f => f.toValue
  | "home_region" => plain ((HomeRegion.read data).map HomeRegion.toValue)
  | "service_list" => plain ((ServiceList.read data).map ServiceList.toValue)
  | "pin_auth_info" => plain ((PinChallenge.read data).map PinChallenge.toValue)
  | "action_response" => plain ((ActionReply.read data).map ActionReply.toValue)
  | other => .obj [("error", .str "DriverError"), ("message", .str s!"unknown model {other}")]

/-- The kind named in a conversion request; none for kinds without conversion. -/
def kindNamed : String → Option MemberKind
  | "bool" => some .truth
  | "int" => some .whole
  | "float" => some .real
  | "str" => some .text
  | _ => none

/-- Converts `value` to the kind `type` under a service's rules; kinds without conversion keep
the value. -/
def convertAnswer (rules : ConversionRules) (req : Value) : Value :=
  let v := req.memberOr "value" .null
  match kindNamed (req.textOr "type" "") with
  | some k => answerWith "value" (rules.convert k v)
  | none => .obj [("value", v)]

end ConnectedHome.Console
