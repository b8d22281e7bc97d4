import ConnectedHome.Vehicle.Client.Basic
import ConnectedHome.Vehicle.SecurityPin
import ConnectedHome.Net.Percent
/-!
# Tokens and the headers that carry them

The client asks for each of its three tokens only when the one it holds is expired
(`renewExpired`):

* the access token, with the user's password, from the brand's gateway;
* the identity token, with the user's password, from the identity server;
* the security token, in exchange for a valid identity token.

A token answer without the token asked for is a refusal of the credentials (`issueToken`).  Requests of the
app carry the access token (`appHeaders`), requests of the vehicle's home region the security
token (`homeRegionHeaders`).

A privileged action first asks the home region for a PIN challenge (`actionSecurityToken`).
Without a challenge there is nothing to answer; with one, the account needs a security PIN and
the challenge a token of its own, and the answer (`pinHashOf`, sent by `answerChallenge`) is
exchanged for the token of the action.
-/
namespace ConnectedHome.Vehicle

open Http Net

/-- A refusal of the credentials outside any exchange. -/
def credentialsFault (msg : String) : Fault := serviceFault .authentication msg

/-- A form request for a token. -/
def tokenForm (template : String) (pairs : List (String × String)) : ServiceRequest :=
  { method := "POST", template, body := some (formEncode pairs), forToken := true }

/-- Reads a token answer. -/
def readIssued (text : String) : ClientM IssuedToken :=
  Exec.lift do IssuedToken.read (← parseObject text)

/-- The request for an access token. -/
def accessTokenRequest (a : AccountConfig) : ServiceRequest :=
  tokenForm tokenUri [("grant_type", "password"), ("username", a.user), ("password", a.password)]

/-- The request for an identity token. -/
def identityTokenRequest (a : AccountConfig) : ServiceRequest :=
  tokenForm identityTokenUrl
    [("client_id", identityClientId), ("scope", identityScope), ("response_type", "token id_token"),
     ("grant_type", "password"), ("username", a.user), ("password", a.password)]

/-- The request for a security token in exchange for the id token `idToken`. -/
def securityTokenRequest (idToken : String) : ServiceRequest :=
  let headers := [("User-Agent", userAgent), ("X-App-Version", "3.14.0"), ("X-App-Name", "myAudi"),
    ("X-Client-Id", securityClientId), ("Host", securityTokenHost)]
  let body : Value := .obj [("grant_type", .str "id_token"), ("token", .str idToken),
    ("scope", .str securityScope)]
  { method := "POST", template := securityTokenUrl, headers, body := some body.toRequestText, forToken := true }

/-- Asks for a token with request `r`.  The answer must carry the token that `present` reads, or
the credentials count as refused (`refusal`); the token it issues is held from then on (`store`). -/
def issueToken (r : ServiceRequest) (present : IssuedToken → Value)
    (store : VehicleClient → HeldToken → VehicleClient) (refusal : String) : ClientM HeldToken := do
  let text ← request r
  let issued ← readIssued text
  if !(present issued).truthy then throw (credentialsFault refusal)
  let held := HeldToken.ofIssued issued (← now)
  modifyClient fun c => store c held
  return held

/-- The token `held` reads from the client while it is valid; once it is expired, the one `renew`
asks for under the client's account. -/
def renewExpired (held : VehicleClient → HeldToken) (renew : AccountConfig → ClientM HeldToken) :
    ClientM HeldToken := do
  let c ← client
  if !(← expiredNow (held c)) then return held c
  renew c.config

/-- The access token, asked for when expired. -/
def createAccessToken : ClientM HeldToken :=
  renewExpired (·.apiToken) fun a =>
    issueToken (accessTokenRequest a) (·.accessToken) (fun c held => { c with apiToken := held })
      "Authentication failed: Unable to get access token!"

/-- The identity token, asked for when expired. -/
def createIdentityToken : ClientM HeldToken :=
  renewExpired (·.idToken) fun a =>
    issueToken (identityTokenRequest a) (·.idToken) (fun c held => { c with idToken := held })
      "Authentication failed: Unable to get identity token!"

/-- The security token, asked for when expired, in exchange for the identity token. -/
def createSecurityToken : ClientM HeldToken :=
  renewExpired (·.securityToken) fun _ => do
    let identity ← createIdentityToken
    issueToken (securityTokenRequest identity.idToken) (·.accessToken)
      (fun c held => { c with securityToken := held }) "Authentication failed: Unable to get security token!"

/-- Makes sure all three tokens are valid. -/
def refreshTokens : ClientM Unit := do
  discard createAccessToken
  discard createIdentityToken
  discard createSecurityToken

/-- The headers of the app's requests under access token `t`, with the token of an action when
there is one. -/
def appHeaderList (t : HeldToken) (actionToken : String) : List (String × String) :=
  let base := [("User-Agent", userAgent), ("X-App-Name", "eRemote"), ("X-App-Version", "1.0.0"),
    ("Authorization", s!"{t.authType} 1 {t.accessToken}"), ("Accept", jsonType)]
  if actionToken.isEmpty then base else base ++ [("x-mbbSecToken", actionToken)]

/-- The headers of the app's requests, with the token of an action when there is one. -/
def appHeaders (actionToken : String := "") : ClientM (List (String × String)) := do
  return appHeaderList (← createAccessToken) actionToken

/-- The headers of requests to the vehicle's home region under security token `t`. -/
def regionHeaderList (t : HeldToken) : List (String × String) :=
  [("User-Agent", userAgent), ("X-App-Name", "myAudi"), ("X-App-Version", "3.14.0"),
    ("Authorization", s!"Bearer {t.accessToken}"), ("Accept", jsonType)]

/-- The headers of requests to the vehicle's home region. -/
def homeRegionHeaders : ClientM (List (String × String)) := do
  return regionHeaderList (← createSecurityToken)

/-- The request for the PIN challenge of `action`. -/
def pinRequest (vin action : String) (headers : List (String × String)) : ServiceRequest :=
  { method := "GET", template := pinRequestUri, headers, vin, named := [("action", action)] }

/-- The answer to challenge `info`: the challenge, the PIN's hash with it, and the challenge's token. -/
def pinAnswer (info : PinChallenge) (hash : String) : Value :=
  .obj [("securityPinAuthentication", .obj [
    ("securityPin", .obj [("challenge", info.challenge), ("securityPinHash", .str hash)]),
    ("securityToken", info.securityToken)])]

/-- The request that answers a PIN challenge. -/
def pinCompletion (vin : String) (headers : List (String × String)) (info : PinChallenge) (hash : String) :
    ServiceRequest :=
  { method := "POST", template := pinCompleteUri, headers, body := some (pinAnswer info hash).toRequestText, vin }

/-- Answers the PIN challenge `info` of `action` and yields the token of the action. -/
def answerChallenge (vin action : String) (headers : List (String × String)) (info : PinChallenge) :
    ClientM String := do
  let c ← client
  if c.config.spin.isEmpty then throw (Fault.vehicleGeneral s!"Security PIN required for {action}")
  if !info.securityToken.truthy then
    throw (serviceFault .api s!"Incomplete security PIN challenge for {action}")
  let hash ← Exec.lift (pinHashOf c.config.spin info.challenge)
  let text ← request (pinCompletion vin headers info hash)
  let token ← Exec.lift do (← parseObject text).get "securityToken"
  if !token.truthy then throw (credentialsFault s!"Security PIN rejected for {action}")
  return token.display

/-- The token of a privileged action: empty when the vehicle asks for no PIN, else the answer
to its challenge exchanged for a token. -/
def actionSecurityToken (vin action : String) : ClientM String := do
  let headers ← homeRegionHeaders
  let text ← request (pinRequest vin action headers)
  let info ← Exec.lift do PinChallenge.read (← parseObject text)
  if !info.challenge.truthy then return ""
  answerChallenge vin action headers info

end ConnectedHome.Vehicle
