import ConnectedHome.Vehicle.Account
/-!
# Endpoints of the vehicle service

The address templates of the vehicle service and the fixed texts its requests carry.
Templates name the fields `brand`, `country`, `vin` and `home_region`, and some their own
(`action`, `trip_type`); a template without a scheme is a path under the brand's base address
(`AccountConfig.brandUrl`).
-/
namespace ConnectedHome.Vehicle

/-- Seconds a request may take. -/
def requestTimeout : Nat := 30

/-- The access token of the brand's gateway. -/
def tokenUri : String := "core/auth/v1/{brand}/{country}/token"

/-- The identity token. -/
def identityTokenUrl : String := "https://id.audi.com/v1/token"

/-- The security token, exchanged for an identity token. -/
def securityTokenUrl : String :=
  "https://mbboauth-1d.prd.ece.vwg-connect.com/mbbcoauth/mobile/oauth2/v1/token"

/-- The host of the security token server. -/
def securityTokenHost : String := "mbboauth-1d.prd.ece.vwg-connect.com"

/-- The vehicles of the account. -/
def vehicleListUri : String := "usermanagement/users/v1/{brand}/{country}/vehicles"

/-- Model and equipment of a vehicle. -/
def vehicleDetailsUri : String := "promoter/portfolio/v1/{brand}/{country}/vehicle/{vin}/carportdata"

/-- The stored status report of a vehicle. -/
def vehicleStatusUri : String := "bs/vsr/v1/{brand}/{country}/vehicles/{vin}/status"

/-- The current position. -/
def vehiclePositionUri : String := "bs/cf/v1/{brand}/{country}/vehicles/{vin}/position"

/-- The parking position. -/
def storedPositionUri : String := "bs/cf/v1/{brand}/{country}/vehicles/{vin}/storedPosition"

/-- Destinations sent to the vehicle. -/
def destinationsUri : String :=
  "destinationfeedservice/mydestinations/v1/{brand}/{country}/vehicles/{vin}/destinations"

/-- The vehicle's history. -/
def historyUri : String := "bs/dwap/v1/{brand}/{country}/vehicles/{vin}/history"

/-- Management data of the vehicle. -/
def managementInfoUri : String := "vehicleMgmt/vehicledata/v2/{brand}/{country}/vehicles/{vin}"

/-- Portfolio data of the vehicle. -/
def vehicleDataUri : String := "promoter/portfolio/v1/{brand}/{country}/vehicle/{vin}/data"

/-- The permissions of the current user. -/
def vehicleRightsUri : String :=
  "rolesrights/permissions/v1/{brand}/{country}/vehicles/{vin}/fetched-permissions"

/-- The users paired with the vehicle. -/
def vehicleUsersUri : String := "bs/uic/v1/vin/{vin}/users"

/-- Departure timers. -/
def climaterTimerUri : String := "bs/departuretimer/v1/{brand}/{country}/vehicles/{vin}/timer"

/-- Climatisation status. -/
def climaterStatusUri : String := "bs/climatisation/v1/{brand}/{country}/vehicles/{vin}/climater"

/-- Climatisation actions. -/
def climaterActionUri : String :=
  "bs/climatisation/v1/{brand}/{country}/vehicles/{vin}/climater/actions"

/-- Charger status. -/
def chargerStatusUri : String := "bs/batterycharge/v1/{brand}/{country}/vehicles/{vin}/charger"

/-- Trip statistics of one kind. -/
def tripDataUri : String :=
  "bs/tripstatistics/v1/{brand}/{country}/vehicles/{vin}/tripdata/{trip_type}"

/-- Points of interest. -/
def poisUri : String := "b2c/poinav/v1/{brand}/{country}/vehicles/{vin}/pois"

/-- Remote lock and unlock: its history, and its actions. -/
def lockActionsUri : String := "bs/rlu/v1/{brand}/{country}/vehicles/{vin}/actions"

/-- The auxiliary heater. -/
def preHeaterActionUri : String := "bs/rs/v1/{brand}/{country}/vehicles/{vin}/action"

/-- The home region of a vehicle. -/
def homeRegionUri : String := defaultHomeRegion ++ "/cs/vds/v1/vehicles/{vin}/homeRegion"

/-- The operations the user may run. -/
def operationListUri : String := "{home_region}/rolesrights/operationlist/v3/vehicles/{vin}"

/-- The security PIN challenge of an action. -/
def pinRequestUri : String :=
  "{home_region}/rolesrights/authorization/v2/vehicles/{vin}/services/{action}/security-pin-auth-requested"

/-- The answer to a security PIN challenge. -/
def pinCompleteUri : String := "{home_region}/rolesrights/authorization/v2/security-pin-auth-completed"

/-- The privileged actions. -/
def lockAction : String := "rlu_v1/operations/LOCK"

/-- Unlocking. -/
def unlockAction : String := "rlu_v1/operations/UNLOCK"

/-- Starting the auxiliary heater. -/
def preHeatAction : String := "rheating_v1/operations/P_QSACT"

/-- The user agent of every request. -/
def userAgent : String := "okhttp/3.7.0"

/-- The content type of documents. -/
def jsonType : String := "application/json"

/-- The content type of forms. -/
def formType : String := "application/x-www-form-urlencoded"

/-- The content type of lock actions. -/
def lockActionType : String := "application/vnd.vwg.mbb.RemoteLockUnlock_v1_0_0+xml"

/-- The content type of climatisation actions. -/
def climaterActionType : String := "application/vnd.vwg.mbb.ClimaterAction_v1_0_0+json"

/-- The content type of auxiliary heater actions. -/
def preHeaterActionType : String := "application/vnd.vwg.mbb.RemoteStandheizung_v2_0_0+json"

/-- The client id that asks for identity tokens. -/
def identityClientId : String := "mmiconnect_android"

/-- The scope of identity tokens. -/
def identityScope : String :=
  "openid profile email mbb offline_access mbbuserid myaudi selfservice:read selfservice:write"

/-- The scope of security tokens. -/
def securityScope : String := "sc2:fal"

/-- The id of the app that asks for security tokens. -/
def securityClientId : String := "77869e21-e30a-4a92-b016-48ab7d3db1d8"

/-- The errors of the authorization servers that mean the credentials were refused. -/
def refusedCredentials : List String :=
  ["invalid_grant", "invalid_client", "unauthorized_client", "access_denied"]

/-- The error code of the gateway for refused credentials. -/
def gatewayAuthorizationCode : String := "gw.error.authorization"

end ConnectedHome.Vehicle
