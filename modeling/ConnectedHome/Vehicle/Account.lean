import ConnectedHome.Text.Template
import ConnectedHome.Text.Case
import ConnectedHome.Net.Url
import ConnectedHome.Vehicle.Exchange
/-!
# Accounts and the addresses of the vehicle service

An account names the user, the password, the brand and country of the vehicle, its VIN, the
security PIN and, once known, the home region of the vehicle and the user's id
(`AccountConfig`).  A configuration entry gives the account (`AccountConfig.ofEntry`): user and
password are required, the brand defaults to Audi and the country to DE, the VIN is upper-cased
and a missing PIN is empty.

Requests go to addresses built from templates (`AccountConfig.brandUrl`): the template's fields
`brand`, `country`, `vin` and `home_region` are filled, together with the request's own named
values, which may not reuse those names.  A template that is an absolute address, or fills to one, is used as it is; any other is
a path under the brand's base address.  Query pairs, if any, are set in the address's query.
-/
namespace ConnectedHome.Vehicle

open Net

/-- The Audi brand. -/
def brandAudi : String := "Audi"

/-- The base address of Audi vehicles. -/
def audiBaseUrl : String := "https://msg.audi.de/fs-car"

/-- The base address of Volkswagen vehicles. -/
def volkswagenBaseUrl : String := "https://msg.volkswagen.de/fs-car"

/-- The home region used until the vehicle's own is known. -/
def defaultHomeRegion : String := "https://mal-1a.prd.ece.vwg-connect.com/api"

/-- An account of the vehicle service. -/
structure AccountConfig where
  user : String
  password : String
  brand : String := brandAudi
  country : String := "DE"
  vin : String := ""
  spin : String := ""
  homeRegionUrl : String := ""
  userId : String := ""
deriving Inhabited

/-- The text of an entry member, when it is present. -/
def entryText (v : Value) : String :=
  match v with
  | .str s => s
  | _ => v.display

/-- The account of a configuration entry. -/
def AccountConfig.ofEntry (data : Value) : Except Fault AccountConfig := do
  let user ← data.item "username"
  let password ← data.item "password"
  let brand := ((data.field? "brand").map entryText).getD brandAudi
  let country := ((data.field? "country").map entryText).getD "DE"
  let vin ← match data.field? "vin" with
    | none => pure ""
    | some (.str s) => pure (Text.upper s)
    | some v => throw (.noAttribute s!"'{v.kind}' object has no attribute 'upper'")
  let spin := match data.field? "spin" with
    | some v => if v.truthy then entryText v else ""
    | none => ""
  return { user := entryText user, password := entryText password, brand, country, vin, spin }

/-- The account as a document. -/
def AccountConfig.toValue (a : AccountConfig) : Value :=
  .obj [("user", .str a.user), ("password", .str a.password), ("brand", .str a.brand),
    ("country", .str a.country), ("vin", .str a.vin), ("spin", .str a.spin),
    ("home_region_url", .str a.homeRegionUrl), ("user_id", .str a.userId)]

/-- The base address of the account's brand; brands are told apart ignoring case. -/
def AccountConfig.baseUrl (a : AccountConfig) : Except Fault String :=
  let brand := Text.lower a.brand
  if brand == "audi" then .ok audiBaseUrl
  else if brand == "vw" || brand == "volkswagen" then .ok volkswagenBaseUrl
  else .error (Fault.vehicleGeneral s!"Unknown brand for base URL: {a.brand}")

/-- The names the address templates fill from the account. -/
def templateNames : List String := ["brand", "country", "vin", "home_region"]

/-- The names a request's own named values may not take, since the request already gives
them. -/
def requestNames : List String := ["self", "uri_template", "vin", "params"]

/-- Builds the address of a request from a template, the vehicle, query pairs and named
values. -/
def AccountConfig.brandUrl (a : AccountConfig) (template vin : String)
    (query : List (String × Value)) (named : List (String × Value)) : Except Fault String := do
  if let some (k, _) := named.find? (fun (k, _) => requestNames.contains k) then
    throw (.badType s!"CarNetApiClient.get_brand_url() got multiple values for argument '{k}'")
  if let some (k, _) := named.find? (fun (k, _) => templateNames.contains k) then
    throw (.badType s!"str.format() got multiple values for keyword argument '{k}'")
  let homeRegion := if a.homeRegionUrl.isEmpty then defaultHomeRegion else a.homeRegionUrl
  let lookup (k : String) : Option Text.Subject :=
    match k with
    | "brand" => some (.value (.str a.brand))
    | "country" => some (.value (.str a.country))
    | "vin" => some (.value (.str vin))
    | "home_region" => some (.value (.str homeRegion))
    | _ => (named.find? (·.1 == k)).map (.value ·.2)
  let path ← Text.fillTemplate template lookup
  let url ← if template.contains "://" || path.contains "://" then pure path
    else do pure ((← a.baseUrl) ++ "/" ++ path)
  if query.isEmpty then return url
  let u ← Url.read url
  let pairs ← query.mapM fun (k, v) => queryValuePairs k v
  return (u.updateQuery pairs.flatten).text

end ConnectedHome.Vehicle
