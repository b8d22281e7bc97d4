import ConnectedHome.Console.HubSession
import ConnectedHome.Vehicle.Integration
import ConnectedHome.Speaker.Integration
/-!
# Console: the hub with one integration

A hub request names the integration it runs (`domain`): the vehicle integration or the speaker
integration.  Vehicle requests are shown in the vehicle client's form, speaker requests in the
speaker client's.  A speaker request may say that binding the event port fails, with the error
number and text the network gives (`bindRefusalOf`).
-/
namespace ConnectedHome.Console

open Hub Vehicle Speaker

/-- The refusal a request says the network gives when the event port is bound, if any. -/
def bindRefusalOf (req : Value) : Option Fault :=
  match req.field? "udp_bind_error" with
  | some (.list [n, text]) =>
    match n.toInt with
    | .ok errno => some (.os errno (argText text))
    | .error _ => none
  | _ => none

/-- The answer to a request naming a domain the hub does not run. -/
def unknownDomain (domain : String) : Value :=
  .obj [("error", .str "DriverError"), ("message", .str s!"unknown domain {domain}")]

/-- Runs a flow session of the integration the request names. -/
def hubFlowAnswer (req : Value) : Value :=
  match req.textOr "domain" "" with
  | "carnet" => flowSessionAnswer carIntegration vehicleRequestValue () req
  | "yamaha_musiccast" =>
    flowSessionAnswer speakerIntegration speakerRequestValue { bindRefusal := bindRefusalOf req } req
  | d => unknownDomain d

/-- Runs an integration session of the integration the request names. -/
def hubIntegrationAnswer (req : Value) : Value :=
  match req.textOr "domain" "" with
  | "carnet" => integrationSessionAnswer carIntegration vehicleRequestValue () req
  | "yamaha_musiccast" =>
    integrationSessionAnswer speakerIntegration speakerRequestValue
      { bindRefusal := bindRefusalOf req } req
  | d => unknownDomain d

end ConnectedHome.Console
