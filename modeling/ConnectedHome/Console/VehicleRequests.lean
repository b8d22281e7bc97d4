import ConnectedHome.Console.Answer
import ConnectedHome.Vehicle.SecurityPin
import ConnectedHome.Vehicle.Token
import ConnectedHome.Vehicle.Account
import ConnectedHome.Vehicle.EntityNames
import ConnectedHome.Net.Percent
/-!
# Console: the pieces of a vehicle service request

Requests about what goes into a request of the vehicle service: the answer to a PIN
challenge, the body of a request, its address, the tokens, the names of entities and the
account of a configuration entry.
-/
namespace ConnectedHome.Console

open Vehicle Net

/-- The answer to a PIN challenge. -/
def pinHashAnswer (req : Value) : Value :=
  answerWith "value" ((pinHash (req.textOr "pin" "") (req.textOr "challenge" "")).map Value.str)

/-- The form body of a document: an object's members as `name=value` pairs; an empty list or
text is an empty body, and nothing else is a form. -/
def formBody (data : Value) : Except Fault String :=
  match data with
  | .obj ms => .ok (formEncode (ms.map fun (k, v) => (k, v.display)))
  | .list [] | .str "" => .ok ""
  | _ => .error (.badType "not a valid non-string sequence or mapping object")

/-- The body of a request, as a document or as a form. -/
def postDataAnswer (req : Value) : Value :=
  let data := req.memberOr "data" .null
  if req.flagOr "as_json" false then .obj [("value", .str data.toRequestText)]
  else answerWith "value" ((formBody data).map Value.str)

/-- An account given by its own members; user and password are required. -/
def accountOfMembers (v : Value) : Except Fault AccountConfig := do
  let text (k d : String) : String := v.textOr k d
  match v.field? "user", v.field? "password" with
  | none, none => throw (.badType
      "CarNetAccountConfig.__init__() missing 2 required positional arguments: 'user' and 'password'")
  | none, _ => throw (.badType "CarNetAccountConfig.__init__() missing 1 required positional argument: 'user'")
  | _, none => throw (.badType
      "CarNetAccountConfig.__init__() missing 1 required positional argument: 'password'")
  | some _, some _ =>
    return { user := text "user" "", password := text "password" "", brand := text "brand" brandAudi,
             country := text "country" "DE", vin := text "vin" "", spin := text "spin" "",
             homeRegionUrl := text "home_region_url" "", userId := text "user_id" "" }

/-- The members of an object, none for anything else. -/
def membersOf : Value → List (String × Value)
  | .obj ms => ms
  | _ => []

/-- The address of a request, or the base address of the account's brand. -/
def urlAnswer (req : Value) : Value :=
  answerWith "value" do
    let a ← accountOfMembers (req.memberOr "config" .null)
    if req.flagOr "base" false then return .str (← a.baseUrl)
    let named := membersOf (req.memberOr "kwargs" .null)
    let url ← a.brandUrl (req.textOr "uri_template" "") (req.textOr "vin" "")
      (membersOf (req.memberOr "params" .null)) named
    return .str url

/-- A held token given by its own members. -/
def heldTokenOfMembers (v : Value) : HeldToken :=
  { authType := v.textOr "auth_type" "", accessToken := v.textOr "access_token" "",
    idToken := v.textOr "id_token" "", refreshToken := v.textOr "refresh_token" "",
    scope := v.textOr "scope" "", validity := v.memberOr "validity" (.int 0),
    issuedAt := v.memberOr "issued_at" (.float 0.0) }

/-- A token, its expiry and whether it is expired at each of the given clock readings. -/
def tokenAnswer (req : Value) : Value :=
  match (do
    let t ← match req.field? "token" with
      | some doc => pure (heldTokenOfMembers doc)
      | none => do
        let issued ← IssuedToken.read (req.memberOr "api_token" .null)
        pure (HeldToken.ofIssued issued (req.memberOr "clock" (.float 0.0)))
    let expiresAt ← t.expiresAt
    let checks := match req.memberOr "checks" .null with
      | .list ts => ts
      | _ => []
    let expired ← checks.mapM fun now => t.expiredAt now
    return Value.obj [("token", t.toValue), ("expires_at", expiresAt),
      ("expired", .list (expired.map Value.bool))] : Except Fault Value) with
  | .ok v => v
  | .error f => f.toValue

/-- The label and identifier of a channel's entity. -/
def labelAnswer (req : Value) : Value :=
  .obj [("label", .str (channelLabel (req.textOr "channel" ""))),
    ("unique_id", .str (channelUniqueId (req.textOr "key" "")))]

/-- The account of a configuration entry. -/
def accountConfigAnswer (req : Value) : Value :=
  answerWith "value" ((AccountConfig.ofEntry (req.memberOr "data" .null)).map AccountConfig.toValue)

end ConnectedHome.Console
