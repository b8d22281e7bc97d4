import ConnectedHome.Vehicle.Reports
import ConnectedHome.Number.Mixed
/-!
# Tokens held by the client

The client keeps each token it was issued together with the time it was issued at, read from a
monotonic clock, and its validity in seconds (`HeldToken`).  A token is issued from a token
answer (`HeldToken.ofIssued`): a missing type is `Bearer`, missing texts are empty, and a
missing or zero validity is an hour.

A token expires at its issue time plus its validity, in the kind of number those two have.  It
counts as expired when it has neither an access token nor an id token, or when the clock has
reached its expiry (`HeldToken.expiredAt`).
-/
namespace ConnectedHome.Vehicle

/-- The validity of a token whose answer gives none: one hour. -/
def defaultValidity : Int := 3600

/-- A token the client holds. -/
structure HeldToken where
  authType : String := ""
  accessToken : String := ""
  idToken : String := ""
  refreshToken : String := ""
  scope : String := ""
  /-- Seconds the token is valid for: a whole number, normally. -/
  validity : Value := .int 0
  /-- The clock reading at issue. -/
  issuedAt : Value := .float 0.0
deriving Inhabited

/-- The text of a converted member, empty when it counts as absent. -/
def textOrEmpty (v : Value) : String :=
  match v with
  | .str s => s
  | _ => if v.truthy then v.display else ""

/-- The token issued by an answer at clock reading `now`. -/
def HeldToken.ofIssued (t : IssuedToken) (now : Value) : HeldToken :=
  { authType := if t.authType.truthy then textOrEmpty t.authType else "Bearer",
    accessToken := textOrEmpty t.accessToken, idToken := textOrEmpty t.idToken,
    refreshToken := textOrEmpty t.refreshToken, scope := textOrEmpty t.scope,
    validity := if t.validity.truthy then t.validity else .int defaultValidity,
    issuedAt := now }

/-- The clock reading at which the token expires. -/
def HeldToken.expiresAt (t : HeldToken) : Except Fault Value := t.issuedAt.plus t.validity

/-- Whether the token is expired at clock reading `now`. -/
def HeldToken.expiredAt (t : HeldToken) (now : Value) : Except Fault Bool := do
  if t.accessToken.isEmpty && t.idToken.isEmpty then return true
  now.atLeast (← t.expiresAt)

/-- Whether the token can be used: it has an access token or an id token. -/
def HeldToken.present (t : HeldToken) : Bool := !t.accessToken.isEmpty || !t.idToken.isEmpty

/-- The token as a document. -/
def HeldToken.toValue (t : HeldToken) : Value :=
  .obj [("auth_type", .str t.authType), ("access_token", .str t.accessToken),
    ("id_token", .str t.idToken), ("refresh_token", .str t.refreshToken), ("scope", .str t.scope),
    ("validity", t.validity), ("issued_at", t.issuedAt)]

end ConnectedHome.Vehicle
