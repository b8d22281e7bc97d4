import ConnectedHome.Document.Convert
import ConnectedHome.Vehicle.Exchange
/-!
# What the vehicle service reports

The vehicle service answers with nested documents.  Each kind of answer is read into a record
here; the reading is defensive in the way the service requires:

* flat records (`IssuedToken`, `VehicleDetails`, `StatusField`, `ServiceList`) convert each member
  to its declared kind under `ConversionRules.vehicle`, and a member that cannot be converted
  keeps its default;
* nested answers follow a fixed path of members, where a member that counts as absent stands
  for an empty object or list;
* a single object where a list is expected counts as a list of one.

Members of converted kinds are kept as values: text members hold text or null, whole-number
members an integer, a truth value, or null.  Members read without conversion hold whatever the
service sent.  A document that is not an object where one is read is a fault of the reading,
reported by `Value.get`.
-/
namespace ConnectedHome.Vehicle

/-- The value of a member in a list of read members. -/
def memberOf (ms : List (String × Value)) (k : String) : Value := (Members.lookup ms k).getD .null

/-- A token answer of the authorization servers. -/
structure IssuedToken where
  authType : Value := .null
  accessToken : Value := .null
  idToken : Value := .null
  refreshToken : Value := .null
  securityToken : Value := .null
  validity : Value := .null
  scope : Value := .null
deriving Inhabited

/-- The members of a token answer, with the names the servers use. -/
def IssuedToken.specs : List MemberSpec :=
  [⟨"auth_type", "token_type", .text, .null⟩, ⟨"access_token", "access_token", .text, .null⟩,
   ⟨"id_token", "id_token", .text, .null⟩, ⟨"refresh_token", "refresh_token", .text, .null⟩,
   ⟨"security_token", "securityToken", .text, .null⟩, ⟨"validity", "expires_in", .whole, .null⟩,
   ⟨"scope", "scope", .text, .null⟩]

/-- Reads a token answer. -/
def IssuedToken.read (doc : Value) : Except Fault IssuedToken := do
  let ms ← ConversionRules.vehicle.readFlat IssuedToken.specs doc
  let m := memberOf ms
  pure ⟨m "auth_type", m "access_token", m "id_token", m "refresh_token", m "security_token",
    m "validity", m "scope"⟩

/-- The token answer as a document. -/
def IssuedToken.toValue (t : IssuedToken) : Value :=
  .obj [("auth_type", t.authType), ("access_token", t.accessToken), ("id_token", t.idToken),
    ("refresh_token", t.refreshToken), ("security_token", t.securityToken),
    ("validity", t.validity), ("scope", t.scope)]

/-- Reads an error report.  Two shapes exist: the authorization servers send
`{"error": "invalid_grant", "error_description": …}`, the gateway sends
`{"error": {"errorCode": …, "description": …, "details": {"reason": …}}}`.  Members are turned
into text as they are; a document that counts as absent is an empty report. -/
def ErrorReport.read (doc : Value) : Except Fault ErrorReport := do
  if !doc.truthy then return {}
  let err ← doc.get "error"
  match err with
  | .obj _ =>
    let code ← err.getD "errorCode" (.str "")
    let description ← err.getD "description" (.str "")
    let details ← err.get "details"
    let reason ← match details.orElse (.obj []) with
      | d@(.obj _) => do
        let r ← d.getD "reason" (.str "")
        pure r.display
      | _ => pure ""
    pure ⟨code.display, code.display, description.display, reason⟩
  | _ =>
    let code ← doc.getD "code" (.str "")
    let description ← doc.getD "error_description" (.str "")
    pure ⟨(err.orElse (.str "")).display, code.display, description.display, ""⟩

/-- The vehicles of an account. -/
structure VehicleList where
  vins : List String
deriving Inhabited

/-- Reads the vehicle list: `userVehicles.vehicle`, one text standing for a list of one. -/
def VehicleList.read (doc : Value) : Except Fault VehicleList := do
  let user ← doc.get "userVehicles"
  let vehicles ← (user.orElse (.obj [])).get "vehicle"
  let vehicles := vehicles.orElse (.list [])
  let items ← match vehicles with
    | .str s => pure [Value.str s]
    | v => v.elements
  pure ⟨items.map Value.display⟩

/-- The vehicle list as a document. -/
def VehicleList.toValue (l : VehicleList) : Value := .obj [("vehicles", Value.ofStrings l.vins)]

/-- Model and equipment of a vehicle; every member is text or null. -/
structure VehicleDetails where
  members : List (String × Value)
deriving Inhabited

/-- The members of the vehicle details, with the names the service uses. -/
def VehicleDetails.specs : List MemberSpec :=
  [⟨"system_id", "systemId", .text, .null⟩, ⟨"request_id", "requestId", .text, .null⟩,
   .plain "brand" .text, .plain "country" .text, .plain "vin" .text,
   ⟨"model_code", "modelCode", .text, .null⟩, ⟨"model_name", "modelName", .text, .null⟩,
   ⟨"model_year", "modelYear", .text, .null⟩, .plain "color" .text,
   ⟨"country_code", "countryCode", .text, .null⟩, .plain "engine" .text, .plain "mmi" .text,
   .plain "transmission" .text]

/-- Details with every member null. -/
def VehicleDetails.empty : VehicleDetails := ⟨VehicleDetails.specs.map fun s => (s.name, .null)⟩

/-- Reads the details from `carportData`. -/
def VehicleDetails.read (doc : Value) : Except Fault VehicleDetails := do
  let data ← doc.get "carportData"
  let ms ← ConversionRules.vehicle.readFlat VehicleDetails.specs data
  pure ⟨ms⟩

/-- A member of the details. -/
def VehicleDetails.get (d : VehicleDetails) (k : String) : Value := memberOf d.members k

/-- The details as a document. -/
def VehicleDetails.toValue (d : VehicleDetails) : Value := .obj d.members

/-- One reported value of the stored vehicle data. -/
structure StatusField where
  id : String := ""
  members : List (String × Value)
deriving Inhabited

/-- The members of a status field, with the names the service uses. -/
def StatusField.specs : List MemberSpec :=
  [⟨"id", "id", .text, .str ""⟩, ⟨"ts_car_sent_utc", "tsCarSentUtc", .text, .null⟩,
   ⟨"ts_car_sent", "tsCarSent", .text, .null⟩, ⟨"ts_car_captured", "tsCarCaptured", .text, .null⟩,
   ⟨"ts_tss_received_utc", "tsTssReceivedUtc", .text, .null⟩,
   ⟨"mil_car_captured", "milCarCaptured", .whole, .null⟩,
   ⟨"mil_car_sent", "milCarSent", .whole, .null⟩, .plain "value" .text, .plain "unit" .text]

/-- Reads a status field. -/
def StatusField.read (doc : Value) : Except Fault StatusField := do
  let ms ← ConversionRules.vehicle.readFlat StatusField.specs doc
  pure ⟨(memberOf ms "id").display, ms⟩

/-- A member of a status field. -/
def StatusField.get (f : StatusField) (k : String) : Value := memberOf f.members k

/-- The reported value, if any. -/
def StatusField.value? (f : StatusField) : Option String := (f.get "value").str?

/-- The reported unit, if any. -/
def StatusField.unit? (f : StatusField) : Option String := (f.get "unit").str?

/-- The status field as a document. -/
def StatusField.toValue (f : StatusField) : Value := .obj f.members

/-- A block of status fields sharing a data id. -/
structure StatusBlock where
  id : String
  fields : List StatusField
deriving Inhabited

/-- A single object where a list is expected counts as a list of one; absence as the empty
list. -/
def listOrSingle (v : Value) : Except Fault (List Value) :=
  match v.orElse (.list []) with
  | o@(.obj _) => .ok [o]
  | w => w.elements

/-- Reads a status block. -/
def StatusBlock.read (doc : Value) : Except Fault StatusBlock := do
  let raw ← doc.get "field"
  let items ← listOrSingle raw
  let id ← doc.getD "id" (.str "")
  let fields ← items.mapM StatusField.read
  pure ⟨id.display, fields⟩

/-- The status block as a document. -/
def StatusBlock.toValue (b : StatusBlock) : Value :=
  .obj [("id", .str b.id), ("fields", .list (b.fields.map StatusField.toValue))]

/-- The stored vehicle data report. -/
structure StatusReport where
  vin : String := ""
  blocks : List StatusBlock := []
deriving Inhabited

/-- Reads the report from `StoredVehicleDataResponse.vehicleData.data`. -/
def StatusReport.read (doc : Value) : Except Fault StatusReport := do
  let response := (← doc.get "StoredVehicleDataResponse").orElse (.obj [])
  let vehicleData := (← response.get "vehicleData").orElse (.obj [])
  let blocks ← listOrSingle (← vehicleData.get "data")
  let vin ← response.getD "vin" (.str "")
  let blocks ← blocks.mapM StatusBlock.read
  pure ⟨vin.display, blocks⟩

/-- Every reported field with the id of its block, in report order. -/
def StatusReport.fields (r : StatusReport) : List (String × StatusField) :=
  r.blocks.flatMap fun b => b.fields.map fun f => (b.id, f)

/-- The report as a document. -/
def StatusReport.toValue (r : StatusReport) : Value :=
  .obj [("vin", .str r.vin), ("data", .list (r.blocks.map StatusBlock.toValue))]

/-- A position report; coordinates are in millionths of a degree, all members as sent. -/
structure PositionReport where
  latitudeRaw : Value := .null
  longitudeRaw : Value := .null
  timestampCarSent : Value := .null
  timestampTssReceived : Value := .null
  parkingTimeUtc : Value := .null
deriving Inhabited

/-- Reads a position from `findCarResponse` or `storedPositionResponse`, then `Position` or
`position`, then `carCoordinate`. -/
def PositionReport.read (doc : Value) : Except Fault PositionReport := do
  let find ← doc.get "findCarResponse"
  let response ← if find.truthy then pure find else do
    let stored ← doc.get "storedPositionResponse"
    pure (stored.orElse (.obj []))
  let upper ← response.get "Position"
  let position ← if upper.truthy then pure upper else do
    let lower ← response.get "position"
    pure (lower.orElse (.obj []))
  let coordinate := (← position.get "carCoordinate").orElse (.obj [])
  pure {
    latitudeRaw := ← coordinate.get "latitude"
    longitudeRaw := ← coordinate.get "longitude"
    timestampCarSent := ← position.get "timestampCarSent"
    timestampTssReceived := ← position.get "timestampTssReceived"
    parkingTimeUtc := ← response.get "parkingTimeUTC" }

/-- A coordinate in degrees: the whole number of millionths divided by a million. -/
def coordinateOf (raw : Value) : Except Fault (Option Float) :=
  match raw with
  | .null => .ok none
  | v => do
    let i ← v.toInt
    let x ← Number.intToFloat i
    pure (some (x / 1000000.0))

/-- The latitude in degrees. -/
def PositionReport.latitude (p : PositionReport) : Except Fault (Option Float) :=
  coordinateOf p.latitudeRaw

/-- The longitude in degrees. -/
def PositionReport.longitude (p : PositionReport) : Except Fault (Option Float) :=
  coordinateOf p.longitudeRaw

/-- The position report as a document. -/
def PositionReport.toValue (p : PositionReport) : Value :=
  .obj [("latitude_raw", p.latitudeRaw), ("longitude_raw", p.longitudeRaw),
    ("timestamp_car_sent", p.timestampCarSent), ("timestamp_tss_received", p.timestampTssReceived),
    ("parking_time_utc", p.parkingTimeUtc)]

/-- The home region of a vehicle, as sent. -/
structure HomeRegion where
  systemId : Value := .null
  baseUri : Value := .null

/-- Reads `homeRegion.baseUri.{systemId, content}`. -/
def HomeRegion.read (doc : Value) : Except Fault HomeRegion := do
  let region := (← doc.get "homeRegion").orElse (.obj [])
  let base := (← region.get "baseUri").orElse (.obj [])
  pure ⟨← base.get "systemId", ← base.get "content"⟩

/-- The home region as a document. -/
def HomeRegion.toValue (h : HomeRegion) : Value :=
  .obj [("system_id", h.systemId), ("base_uri", h.baseUri)]

/-- The operations the current user may run on a vehicle; every member is text or null. -/
structure ServiceList where
  members : List (String × Value)
deriving Inhabited

/-- The members of the operation list. -/
def ServiceList.specs : List MemberSpec :=
  [.plain "vin" .text, ⟨"channel_client", "channelClient", .text, .null⟩,
   ⟨"user_id", "userId", .text, .null⟩, .plain "role" .text,
   ⟨"security_level", "securityLevel", .text, .null⟩, .plain "status" .text]

/-- An operation list with every member null. -/
def ServiceList.empty : ServiceList := ⟨ServiceList.specs.map fun s => (s.name, .null)⟩

/-- Reads the operation list from `operationList`. -/
def ServiceList.read (doc : Value) : Except Fault ServiceList := do
  let data ← doc.get "operationList"
  let ms ← ConversionRules.vehicle.readFlat ServiceList.specs data
  pure ⟨ms⟩

/-- A member of the operation list. -/
def ServiceList.get (s : ServiceList) (k : String) : Value := memberOf s.members k

/-- The operation list as a document. -/
def ServiceList.toValue (s : ServiceList) : Value := .obj s.members

/-- The security PIN challenge of a privileged action, as sent. -/
structure PinChallenge where
  securityToken : Value := .null
  hashProcedureVersion : Value := .null
  challenge : Value := .null
  remainingTries : Value := .null

/-- Reads `securityPinAuthInfo` and its `securityPinTransmission`. -/
def PinChallenge.read (doc : Value) : Except Fault PinChallenge := do
  let info := (← doc.get "securityPinAuthInfo").orElse (.obj [])
  let transmission := (← info.get "securityPinTransmission").orElse (.obj [])
  let fallbackTries ← transmission.get "remainingTries"
  pure {
    securityToken := ← info.get "securityToken"
    hashProcedureVersion := ← transmission.get "hashProcedureVersion"
    challenge := ← transmission.get "challenge"
    remainingTries := ← info.getD "remainingTries" fallbackTries }

/-- The challenge as a document. -/
def PinChallenge.toValue (p : PinChallenge) : Value :=
  .obj [("security_token", p.securityToken), ("hash_procedure_version", p.hashProcedureVersion),
    ("challenge", p.challenge), ("remaining_tries", p.remainingTries)]

/-- The acknowledgement of a remote action. -/
structure ActionReply where
  requestId : Option String := none
  vin : Value := .null

/-- Reads `rluActionResponse` or `action`; the request id is `requestId`, else `actionId`. -/
def ActionReply.read (doc : Value) : Except Fault ActionReply := do
  let rlu ← doc.get "rluActionResponse"
  let response ← if rlu.truthy then pure rlu else do
    let a ← doc.get "action"
    pure (a.orElse (.obj []))
  let actionId ← response.get "actionId"
  let requestId ← response.getD "requestId" actionId
  pure ⟨if requestId.isNull then none else some requestId.display, ← response.get "vin"⟩

/-- The acknowledgement as a document. -/
def ActionReply.toValue (a : ActionReply) : Value :=
  .obj [("request_id", Value.ofOption a.requestId), ("vin", a.vin)]

end ConnectedHome.Vehicle
