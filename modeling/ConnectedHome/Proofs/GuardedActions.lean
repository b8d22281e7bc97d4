import ConnectedHome.Proofs.TokenRefresh
import ConnectedHome.Vehicle.Client.Calls
/-!
# GuardedActions — a privileged action waits for its PIN

Locking and the auxiliary heater are guarded (`guardedAction`): the vehicle's home region is asked
for a PIN challenge, the challenge is answered, and only then does the action go out, with the token
the answer was exchanged for.

- `Sends`: what a computation of the client sends and yields, from any world; it composes along
  `>>=`, so each function is shown to send only requests of some kind once;
- `actionSecurityToken_ok_iff`: the PIN phase grants a token exactly as `PinGrants` says: without a
  challenge an empty one; with a challenge, only for an account with a PIN, a challenge that carries
  a token, and an answer the vehicle accepts with a token of its own;
- `guardedAction_law`: the request of the action's content type goes out only once the PIN phase
  granted, carrying the granted token as `x-mbbSecToken` exactly when that token is not empty; and it
  goes out whenever the PIN phase granted and the access token is at hand;
- `climaterAction_posts`: climatisation and window heating send POSTs only, never the GET of a PIN
  challenge.
-/
namespace ConnectedHome
namespace Vehicle

open Http

/-! ## Headers -/

theorem mem_putHeader {hs : List (String × String)} {k v k' v' : String} (h : (k', v') ∈ putHeader hs k v) :
    (k' = k ∧ v' = v) ∨ (k', v') ∈ hs := by
  unfold putHeader at h
  split at h
  · obtain ⟨⟨a, b⟩, hab, he⟩ := List.mem_map.1 h
    by_cases hk : a = k
    · subst hk
      simp only [beq_self_eq_true, if_true, Prod.mk.injEq] at he
      exact .inl ⟨he.1.symm, he.2.symm⟩
    · simp only [beq_iff_eq, hk, if_false] at he
      exact .inr (he ▸ hab)
  · rcases List.mem_append.1 h with h | h
    · exact .inr h
    · simp only [List.mem_singleton, Prod.mk.injEq] at h
      exact .inl h

/-- Putting one header leaves the others as they were. -/
theorem mem_putHeader_of_ne {hs : List (String × String)} {k v k' v' : String} (hk : k' ≠ k) :
    (k', v') ∈ putHeader hs k v ↔ (k', v') ∈ hs := by
  refine ⟨fun h => (mem_putHeader h).resolve_left fun h' => hk h'.1, fun h => ?_⟩
  unfold putHeader
  split
  · exact List.mem_map.2 ⟨(k', v'), h, by simp [hk]⟩
  · exact List.mem_append_left _ h

/-- **The content type a request is sent with** is one its headers name, the one it names itself,
or, for a body, the type of documents or of forms. -/
theorem ServiceRequest.contentType_sent {r : ServiceRequest} {v : String}
    (h : ("Content-Type", v) ∈ r.sentHeaders) :
    ("Content-Type", v) ∈ r.headers ∨ r.contentType = some v ∨ v = jsonType ∨ v = formType := by
  unfold ServiceRequest.sentHeaders at h
  split at h
  · rcases mem_putHeader h with ⟨-, rfl⟩ | h
    · cases r.contentType with
      | some c => exact .inr (.inl rfl)
      | none => split <;> simp
    · exact .inl (List.mem_filter.1 h).1
  · exact .inl (List.mem_filter.1 h).1

/-! ## What a computation sends -/

/-- A request leaves the world as it was, or sends itself to the address it names. -/
theorem request_world (r : ServiceRequest) (w : ClientWorld) :
    ((request r).run' w).2 = w ∨ ∃ url, r.address w.client.config = .ok url ∧
      ((request r).run' w).2 = { w with outside := { w.outside with
        network := (w.outside.network.send (r.toHttp url w.client.timeout)).2 } } := by
  rcases hr : (request r).run' w with ⟨_ | text, w'⟩
  · exact request_error_inv hr
  · obtain ⟨url, -, -, -, -, hurl, -, -, rfl⟩ := request_ok_inv hr
    exact .inr ⟨url, hurl, rfl⟩

/-- **What `x` sends and yields**: from any world, `x` keeps the account, adds to the network's
record only requests that satisfy `P`, and yields only results that satisfy `Q`. -/
def Sends {α : Type} (P : HttpRequest → Prop) (x : ClientM α) (Q : α → Prop) : Prop :=
  ∀ w, (x.run' w).2.client.config = w.client.config ∧
    (∃ l, (x.run' w).2.outside.network.sent = w.outside.network.sent ++ l ∧ ∀ req ∈ l, P req) ∧
    ∀ a, (x.run' w).1 = .ok a → Q a

namespace Sends

variable {α β : Type} {P : HttpRequest → Prop}

theorem of_run' {x : ClientM α} {Q : α → Prop}
    (h : ∀ w, (x.run' w).2.client.config = w.client.config ∧
      ((x.run' w).2.outside.network = w.outside.network ∨
        ∃ req, P req ∧ (x.run' w).2.outside.network.sent = w.outside.network.sent ++ [req]) ∧
      ∀ a, (x.run' w).1 = .ok a → Q a) : Sends P x Q := by
  intro w
  obtain ⟨hc, hn, hq⟩ := h w
  refine ⟨hc, ?_, hq⟩
  rcases hn with hn | ⟨req, hp, hs⟩
  · exact ⟨[], by simp [hn], by simp⟩
  · exact ⟨[req], hs, by simpa using hp⟩

theorem pure {a : α} {Q : α → Prop} (h : Q a) : Sends P (Pure.pure a) Q :=
  fun _ => ⟨rfl, ⟨[], by simp, by simp⟩, fun _ hb => by cases hb; exact h⟩

theorem lift {r : Except Fault α} {Q : α → Prop} (h : ∀ a, r = .ok a → Q a) : Sends P (Exec.lift r) Q :=
  fun _ => ⟨rfl, ⟨[], by simp, by simp⟩, fun a ha => h a ha⟩

theorem throw_bind {f : Fault} {k : α → ClientM β} {Q : β → Prop} : Sends P (MonadExcept.throw f >>= k) Q :=
  fun _ => ⟨rfl, ⟨[], by simp, by simp⟩, fun _ ha => by simp at ha⟩

theorem client : Sends P client fun _ => True :=
  fun _ => ⟨rfl, ⟨[], (List.append_nil _).symm, by simp⟩, fun _ _ => trivial⟩

theorem ite {c : Prop} [Decidable c] {x y : ClientM α} {Q : α → Prop} (hx : Sends P x Q) (hy : Sends P y Q) :
    Sends P (if c then x else y) Q := by
  split
  · exact hx
  · exact hy

/-- **Sending composes**: what `x` and then `k` send is what `x` sends and then what `k` sends, `k`
running on a result of `x`. -/
theorem bind {x : ClientM α} {k : α → ClientM β} {Q : α → Prop} {R : β → Prop} (hx : Sends P x Q)
    (hk : ∀ a, Q a → Sends P (k a) R) : Sends P (x >>= k) R := by
  intro w
  obtain ⟨hc1, ⟨l1, hl1, hp1⟩, hq1⟩ := hx w
  rw [Exec.run'_bind]
  rcases h1 : x.run' w with ⟨_ | a, w1⟩ <;> rw [h1] at hc1 hl1 hq1
  · exact ⟨hc1, ⟨l1, hl1, hp1⟩, fun _ h => by cases h⟩
  · obtain ⟨hc2, ⟨l2, hl2, hp2⟩, hq2⟩ := hk a (hq1 a rfl) w1
    refine ⟨hc2.trans hc1, ⟨l1 ++ l2, by rw [hl2, hl1, List.append_assoc], fun req hr => ?_⟩, hq2⟩
    rcases List.mem_append.1 hr with hr | hr
    · exact hp1 req hr
    · exact hp2 req hr

/-- A request sends itself, to the address it names, or nothing. -/
theorem request {r : ServiceRequest} (h : ∀ url t, P (r.toHttp url t)) : Sends P (Vehicle.request r) fun _ => True := by
  refine of_run' fun w => ?_
  rcases request_world r w with hw | ⟨url, -, hw⟩ <;> rw [hw]
  · exact ⟨rfl, .inl rfl, fun _ _ => trivial⟩
  · exact ⟨rfl, .inr ⟨_, h url w.client.timeout, Network.send_sent _ _⟩, fun _ _ => trivial⟩

theorem issueToken {r : ServiceRequest} {present : IssuedToken → Value}
    {store : VehicleClient → HeldToken → VehicleClient} {refusal : String} (h : ∀ url t, P (r.toHttp url t))
    (hstore : ∀ c held, (store c held).config = c.config) :
    Sends P (Vehicle.issueToken r present store refusal) fun _ => True := by
  refine of_run' fun w => ?_
  rcases hr : (Vehicle.issueToken r present store refusal).run' w with ⟨_ | held, w'⟩
  · obtain ⟨hc, rfl | ⟨url, -, rfl⟩⟩ := issueToken_error_inv hr
    · exact ⟨rfl, .inl rfl, fun _ h => by cases h⟩
    · exact ⟨rfl, .inr ⟨_, h url w.client.timeout, Network.send_sent _ _⟩, fun _ h => by cases h⟩
  · obtain ⟨url, -, -, -, -, -, -, -, -, -, rfl⟩ := issueToken_ok_inv hr
    exact ⟨hstore _ _, .inr ⟨_, h url w.client.timeout, Network.send_sent _ _⟩, fun _ _ => trivial⟩

theorem renewExpired {held : VehicleClient → HeldToken} {renew : AccountConfig → ClientM HeldToken}
    (h : ∀ a, Sends P (renew a) fun _ => True) : Sends P (Vehicle.renewExpired held renew) fun _ => True := by
  intro w
  rw [renewExpired_run']
  split
  · exact ⟨rfl, ⟨[], by simp, by simp⟩, fun _ _ => trivial⟩
  · exact h _ w
  · exact ⟨rfl, ⟨[], by simp, by simp⟩, fun _ _ => trivial⟩

end Sends

/-! ## What the tokens send -/

/-- `P` holds of every request for a token, whatever its account, id token, address and timeout. -/
def TokenRequestsAre (P : HttpRequest → Prop) : Prop :=
  ∀ a idToken url t, P ((accessTokenRequest a).toHttp url t) ∧ P ((identityTokenRequest a).toHttp url t) ∧
    P ((securityTokenRequest idToken).toHttp url t)

section Tokens

variable {P : HttpRequest → Prop} (hP : TokenRequestsAre P)
include hP

theorem Sends.createAccessToken : Sends P createAccessToken fun _ => True :=
  Sends.renewExpired fun a => Sends.issueToken (fun url t => (hP a "" url t).1) fun _ _ => rfl

theorem Sends.createIdentityToken : Sends P createIdentityToken fun _ => True :=
  Sends.renewExpired fun a => Sends.issueToken (fun url t => (hP a "" url t).2.1) fun _ _ => rfl

theorem Sends.createSecurityToken : Sends P createSecurityToken fun _ => True :=
  Sends.renewExpired fun a => Sends.bind (Sends.createIdentityToken hP) fun identity _ =>
    Sends.issueToken (fun url t => (hP a identity.idToken url t).2.2) fun _ _ => rfl

theorem Sends.appHeaders (actionToken : String) :
    Sends P (appHeaders actionToken) fun hs => ∃ t, hs = appHeaderList t actionToken :=
  Sends.bind (Sends.createAccessToken hP) fun t _ => Sends.pure ⟨t, rfl⟩

theorem Sends.homeRegionHeaders : Sends P homeRegionHeaders fun hs => ∃ t, hs = regionHeaderList t :=
  Sends.bind (Sends.createSecurityToken hP) fun t _ => Sends.pure ⟨t, rfl⟩

end Tokens

/-! ## The PIN phase -/

theorem answerChallenge_run' (vin action : String) (hs : List (String × String)) (info : PinChallenge)
    (w : ClientWorld) :
    (answerChallenge vin action hs info).run' w =
      if w.client.config.spin.isEmpty then (.error (Fault.vehicleGeneral s!"Security PIN required for {action}"), w)
      else if info.securityToken.truthy = false then
        (.error (serviceFault .api s!"Incomplete security PIN challenge for {action}"), w)
      else
        match pinHashOf w.client.config.spin info.challenge with
        | .error f => (.error f, w)
        | .ok hash =>
          match (request (pinCompletion vin hs info hash)).run' w with
          | (.error f, w1) => (.error f, w1)
          | (.ok text, w1) =>
            match (do (← parseObject text).get "securityToken") with
            | .error f => (.error f, w1)
            | .ok token =>
              if token.truthy then (.ok token.display, w1)
              else (.error (credentialsFault s!"Security PIN rejected for {action}"), w1) := by
  simp only [answerChallenge, client, Exec.run'_bind, Exec.run'_get, Exec.run'_pure]
  by_cases hspin : w.client.config.spin.isEmpty = true
  · simp only [hspin, if_true, Exec.run'_bind, Exec.run'_throw]
  · simp only [hspin, Bool.false_eq_true, if_false]
    cases hsec : info.securityToken.truthy
    · simp only [Bool.not_false, if_true, Exec.run'_bind, Exec.run'_throw]
    · simp only [Bool.not_true, Bool.false_eq_true, Bool.true_eq_false, if_false, Exec.run'_bind,
        Exec.run'_lift]
      cases pinHashOf w.client.config.spin info.challenge with
      | error f => rfl
      | ok hash =>
        dsimp only
        rcases (request (pinCompletion vin hs info hash)).run' w with ⟨_ | text, w1⟩
        · rfl
        · dsimp only
          cases (do (← parseObject text).get "securityToken") with
          | error f => rfl
          | ok token =>
            dsimp only
            cases token.truthy
            · simp only [Bool.not_false, if_true, Exec.run'_bind, Exec.run'_throw, Bool.false_eq_true, if_false]
            · simp only [Bool.not_true, Bool.false_eq_true, if_false, if_true, Exec.run'_pure]

/-- **How an answer to challenge `info` grants token `tok`**, from world `w` to `w'`, under PIN `spin`:
the PIN is set, the challenge carries a token, the PIN hashes with the challenge's text to `hash`,
the answer carrying it (`pinCompletion`) is accepted with a text whose `securityToken` is present, and
`tok` is that token's text. -/
def AnswerGrants (vin : String) (hs : List (String × String)) (info : PinChallenge) (spin : String)
    (w : ClientWorld) (tok : String) (w' : ClientWorld) : Prop :=
  spin ≠ "" ∧ info.securityToken.truthy = true ∧
  ∃ hash text token, pinHashOf spin info.challenge = .ok hash ∧
    (request (pinCompletion vin hs info hash)).run' w = (.ok text, w') ∧
    (do (← parseObject text).get "securityToken") = .ok token ∧ token.truthy = true ∧ tok = token.display

theorem answerChallenge_ok_iff {vin action : String} {hs : List (String × String)} {info : PinChallenge}
    {w w' : ClientWorld} {tok : String} :
    (answerChallenge vin action hs info).run' w = (.ok tok, w') ↔
      AnswerGrants vin hs info w.client.config.spin w tok w' := by
  constructor
  · -- every failure is an error, so a token passed each check in turn
    intro h
    rw [answerChallenge_run'] at h
    split at h
    · cases h
    rename_i hspin
    split at h
    · cases h
    rename_i hsec
    split at h
    · cases h
    rename_i hash hh
    split at h
    · cases h
    rename_i text w1 h2
    split at h
    · cases h
    rename_i token ht
    split at h
    · cases h
      exact ⟨fun h => hspin (String.isEmpty_iff.2 h), by simpa using hsec, hash, text, token, hh, h2, ht,
        by assumption, rfl⟩
    · cases h
  · rintro ⟨hne, hsec, hash, text, token, hh, h2, ht, htr, rfl⟩
    rw [answerChallenge_run', if_neg (by simpa using hne), if_neg (by simp [hsec]), hh]
    dsimp only
    rw [h2]
    dsimp only
    rw [ht]
    dsimp only
    rw [if_pos htr]

theorem actionSecurityToken_run' (vin action : String) (w : ClientWorld) :
    (actionSecurityToken vin action).run' w =
      match homeRegionHeaders.run' w with
      | (.error f, w1) => (.error f, w1)
      | (.ok hs, w1) =>
        match (request (pinRequest vin action hs)).run' w1 with
        | (.error f, w2) => (.error f, w2)
        | (.ok text, w2) =>
          match (do PinChallenge.read (← parseObject text)) with
          | .error f => (.error f, w2)
          | .ok info =>
            if info.challenge.truthy then (answerChallenge vin action hs info).run' w2 else (.ok "", w2) := by
  simp only [actionSecurityToken, Exec.run'_bind]
  rcases homeRegionHeaders.run' w with ⟨_ | hs, w1⟩
  · rfl
  dsimp only
  rcases (request (pinRequest vin action hs)).run' w1 with ⟨_ | text, w2⟩
  · rfl
  dsimp only
  rw [Exec.run'_lift]
  cases (do PinChallenge.read (← parseObject text)) with
  | error f => rfl
  | ok info =>
    dsimp only
    cases info.challenge.truthy
    · simp only [Bool.not_false, if_true, Exec.run'_pure, Bool.false_eq_true, if_false]
    · simp only [Bool.not_true, Bool.false_eq_true, if_false, if_true]

/-- Every request satisfies `True`. -/
theorem tokenRequestsAre_true : TokenRequestsAre fun _ => True := fun _ _ _ _ => ⟨trivial, trivial, trivial⟩

/-- **How the PIN phase of `action` grants token `tok`**, from world `w` to `w'`.  The security token
is at hand (headers `hs`), and the challenge request sent with them is answered with a text that
reads as a challenge `info`.  Then either the challenge is absent and the token is empty, or the
challenge is there and an answer to it grants the token (`AnswerGrants`) under the account's PIN. -/
def PinGrants (vin action : String) (w : ClientWorld) (tok : String) (w' : ClientWorld) : Prop :=
  ∃ hs w1 text w2 info, homeRegionHeaders.run' w = (.ok hs, w1) ∧
    (request (pinRequest vin action hs)).run' w1 = (.ok text, w2) ∧
    (do PinChallenge.read (← parseObject text)) = .ok info ∧
    ((info.challenge.truthy = false ∧ tok = "" ∧ w' = w2) ∨
      (info.challenge.truthy = true ∧ AnswerGrants vin hs info w.client.config.spin w2 tok w'))

/-- **The PIN phase grants a token exactly as `PinGrants` says.** -/
theorem actionSecurityToken_ok_iff {vin action : String} {w w' : ClientWorld} {tok : String} :
    (actionSecurityToken vin action).run' w = (.ok tok, w') ↔ PinGrants vin action w tok w' := by
  -- the two requests before the answer keep the account, and with it the PIN
  have hspin : ∀ hs w1 text w2, homeRegionHeaders.run' w = (.ok hs, w1) →
      (request (pinRequest vin action hs)).run' w1 = (.ok text, w2) →
      w2.client.config.spin = w.client.config.spin := by
    intro hs w1 text w2 h1 h2
    have c1 := (Sends.homeRegionHeaders tokenRequestsAre_true w).1
    have c2 := (show Sends (fun _ => True) (request (pinRequest vin action hs)) fun _ => True from
      Sends.request fun _ _ => trivial) w1 |>.1
    rw [h1] at c1
    rw [h2] at c2
    rw [c2, c1]
  constructor
  · intro h
    rw [actionSecurityToken_run'] at h
    split at h
    · cases h
    rename_i hs w1 h1
    split at h
    · cases h
    rename_i text w2 h2
    split at h
    · cases h
    rename_i info h3
    split at h
    · rename_i hc
      have hans := answerChallenge_ok_iff.1 h
      rw [hspin hs w1 text w2 h1 h2] at hans
      exact ⟨hs, w1, text, w2, info, h1, h2, h3, .inr ⟨hc, hans⟩⟩
    · rename_i hc
      simp only [Prod.mk.injEq, Except.ok.injEq] at h
      exact ⟨hs, w1, text, w2, info, h1, h2, h3, .inl ⟨by simpa using hc, h.1.symm, h.2.symm⟩⟩
  · rintro ⟨hs, w1, text, w2, info, h1, h2, h3, ⟨hc, rfl, rfl⟩ | ⟨hc, hans⟩⟩
    all_goals
      rw [actionSecurityToken_run', h1]
      dsimp only
      rw [h2]
      dsimp only
      rw [h3]
      dsimp only
    · rw [if_neg (by simp [hc])]
    · rw [if_pos hc]
      rw [← hspin hs w1 text w2 h1 h2] at hans
      exact answerChallenge_ok_iff.2 hans

/-! ## What a guarded action sends -/

/-- Whether a request is sent with content type `ty`. -/
def SentAs (ty : String) (req : HttpRequest) : Prop := ("Content-Type", ty) ∈ req.headers.getD []

/-- A request that names no content type and has no such header is sent as a document or a form. -/
theorem not_sentAs_toHttp {r : ServiceRequest} {ty : String} (hct : r.contentType = none)
    (hh : ∀ v, ("Content-Type", v) ∉ r.headers) (hty : ty ≠ jsonType ∧ ty ≠ formType) (url : String) (t : Nat) :
    ¬ SentAs ty (r.toHttp url t) := by
  intro h
  rcases ServiceRequest.contentType_sent h with h | h | h | h
  · exact hh ty h
  · rw [hct] at h
    cases h
  · exact hty.1 h
  · exact hty.2 h

section SentAs

variable {ty : String} (hty : ty ≠ jsonType ∧ ty ≠ formType)
include hty

theorem tokenRequestsAre_not_sentAs : TokenRequestsAre fun req => ¬ SentAs ty req := by
  intro a idToken url t
  refine ⟨not_sentAs_toHttp rfl ?_ hty url t, not_sentAs_toHttp rfl ?_ hty url t,
    not_sentAs_toHttp rfl ?_ hty url t⟩
  · simp [accessTokenRequest, tokenForm]
  · simp [identityTokenRequest, tokenForm]
  · simp [securityTokenRequest]

/-- **The PIN phase sends nothing of the action's type.** -/
theorem Sends.actionSecurityToken (vin action : String) :
    Sends (fun req => ¬ SentAs ty req) (actionSecurityToken vin action) fun _ => True := by
  have hregion : ∀ t v, ("Content-Type", v) ∉ regionHeaderList t := by simp [regionHeaderList]
  unfold Vehicle.actionSecurityToken answerChallenge
  refine Sends.bind (Sends.homeRegionHeaders (tokenRequestsAre_not_sentAs hty)) fun hs ⟨t, hhs⟩ => ?_
  subst hhs
  refine Sends.bind (Sends.request (not_sentAs_toHttp rfl (hregion t) hty)) fun text _ => ?_
  refine Sends.bind (Sends.lift fun _ _ => trivial) fun info _ => ?_
  -- the answer to a challenge: the checks throw, and only its request is sent
  dsimp only
  refine Sends.ite (Sends.pure trivial) (Sends.bind Sends.client fun c _ => ?_)
  refine Sends.ite Sends.throw_bind (Sends.ite Sends.throw_bind ?_)
  refine Sends.bind (Sends.lift fun _ _ => trivial) fun hash _ => ?_
  refine Sends.bind (Sends.request (not_sentAs_toHttp rfl (hregion t) hty)) fun text _ => ?_
  refine Sends.bind (Sends.lift fun _ _ => trivial) fun token _ => ?_
  exact Sends.ite Sends.throw_bind (Sends.pure trivial)

end SentAs

/-- **The action carries the token of its PIN phase**, as `x-mbbSecToken`, exactly when that token is
not empty. -/
theorem actionRequest_secToken (template vin body ty : String) (t : HeldToken) (tok url : String) (tm : Nat)
    (v : String) :
    ("x-mbbSecToken", v) ∈ ((actionRequest template vin body ty (appHeaderList t tok)).toHttp url tm).headers.getD [] ↔
      tok ≠ "" ∧ v = tok := by
  have hbase : ("x-mbbSecToken", v) ∈ (appHeaderList t tok).filter (fun h => !h.2.isEmpty) ↔ tok ≠ "" ∧ v = tok := by
    unfold appHeaderList
    by_cases htok : tok = ""
    · subst htok
      simp
    · have : tok.isEmpty = false := by simpa [String.isEmpty_iff] using htok
      simp only [this, Bool.false_eq_true, if_false, List.filter_append, List.mem_append]
      simp [htok]
  simp only [ServiceRequest.toHttp, Option.getD_some, ServiceRequest.sentHeaders, actionRequest]
  -- the content type, put or not, is another header
  split
  · rw [mem_putHeader_of_ne (by decide)]
    exact hbase
  · exact hbase

/-- **What a guarded action did**, from world `w` to `w'`: what went out, `l`, holds a request of the
action's content type `ty` only as its last request, and only once the PIN phase granted a token and the
access token was at hand; that request is the action, sent to its address with the headers of the
access token, and it carries the granted token exactly when that token is not empty.  And the action
went out whenever the PIN phase granted, the access token was at hand, and the client could send it. -/
def ActionLaw (vin action template body ty : String) (w w' : ClientWorld) : Prop :=
  ∃ l, w'.outside.network.sent = w.outside.network.sent ++ l ∧
    (∀ req ∈ l, SentAs ty req → ∃ tok w1 hs w2 url, PinGrants vin action w tok w1 ∧
      (appHeaders tok).run' w1 = (.ok hs, w2) ∧
      (actionRequest template vin body ty hs).address w.client.config = .ok url ∧
      req = (actionRequest template vin body ty hs).toHttp url w2.client.timeout ∧ l.getLast? = some req ∧
      ∀ v, ("x-mbbSecToken", v) ∈ req.headers.getD [] ↔ tok ≠ "" ∧ v = tok) ∧
    (∀ tok w1 hs w2 url, PinGrants vin action w tok w1 → (appHeaders tok).run' w1 = (.ok hs, w2) →
      w2.client.hasSession = true → (actionRequest template vin body ty hs).address w.client.config = .ok url →
      (actionRequest template vin body ty hs).toHttp url w2.client.timeout ∈ l)

theorem guardedAction_law (vin action template body ty : String) (hty : ty ≠ jsonType ∧ ty ≠ formType)
    (w : ClientWorld) : ActionLaw vin action template body ty w ((guardedAction vin action template body ty).run' w).2 := by
  simp only [guardedAction, Exec.run'_bind]
  -- the PIN phase
  obtain ⟨hc1, ⟨l1, hl1, hp1⟩, -⟩ := Sends.actionSecurityToken hty vin action w
  rcases h1 : (actionSecurityToken vin action).run' w with ⟨_ | tok, w1⟩ <;> rw [h1] at hc1 hl1
  · refine ⟨l1, hl1, fun req hr hs => absurd hs (hp1 req hr), fun tok w1' hs w2 url hg => ?_⟩
    rw [← actionSecurityToken_ok_iff, h1] at hg
    cases hg
  -- the access token
  dsimp only
  obtain ⟨hc2, ⟨l2, hl2, hp2⟩, hq2⟩ := Sends.appHeaders (tokenRequestsAre_not_sentAs hty) tok w1
  rcases h2 : (appHeaders tok).run' w1 with ⟨_ | hs, w2⟩ <;> rw [h2] at hc2 hl2 hq2
  · refine ⟨l1 ++ l2, by rw [hl2, hl1, List.append_assoc], fun req hr hs => ?_, fun tok' w1' hs' w2' url hg hh => ?_⟩
    · rcases List.mem_append.1 hr with hr | hr
      · exact (hp1 req hr hs).elim
      · exact (hp2 req hr hs).elim
    · rw [← actionSecurityToken_ok_iff, h1] at hg
      cases hg
      rw [h2] at hh
      cases hh
  obtain ⟨t, rfl⟩ := hq2 hs rfl
  -- the action, sent with those headers
  dsimp only
  simp only [sendAction, Exec.run'_bind]
  have hcfg : w2.client.config = w.client.config := hc2.trans hc1
  let ra := actionRequest template vin body ty (appHeaderList t tok)
  rcases h3 : (request ra).run' w2 with ⟨res3, w3⟩
  -- reading the acknowledgement leaves the world as the request left it
  suffices h : ActionLaw vin action template body ty w w3 by cases res3 <;> exact h
  dsimp only at hl1 hc1 hl2 hc2
  -- a grant and headers are the ones this run obtained
  have hgrant : ∀ tok' w1' hs' w2', PinGrants vin action w tok' w1' → (appHeaders tok').run' w1' = (.ok hs', w2') →
      tok' = tok ∧ w1' = w1 ∧ hs' = appHeaderList t tok ∧ w2' = w2 := by
    intro tok' w1' hs' w2' hg hh
    rw [← actionSecurityToken_ok_iff, h1] at hg
    simp only [Prod.mk.injEq, Except.ok.injEq] at hg
    obtain ⟨rfl, rfl⟩ := hg
    rw [h2] at hh
    simp only [Prod.mk.injEq, Except.ok.injEq] at hh
    exact ⟨rfl, rfl, hh.1.symm, hh.2.symm⟩
  have hnone : ∀ req ∈ l1 ++ l2, ¬ SentAs ty req := by
    intro req hr
    rcases List.mem_append.1 hr with hr | hr
    · exact hp1 req hr
    · exact hp2 req hr
  have hsent12 : w2.outside.network.sent = w.outside.network.sent ++ (l1 ++ l2) := by
    rw [hl2, hl1, List.append_assoc]
  rcases request_world ra w2 with hw | ⟨url, hurl, hw⟩ <;> rw [h3] at hw <;> dsimp only at hw <;> subst hw
  · -- nothing went out: the client could not send the action
    refine ⟨l1 ++ l2, hsent12, fun req hr hs => (hnone req hr hs).elim, ?_⟩
    intro tok' w1' hs' w2' url hg hh hsess hurl
    obtain ⟨rfl, rfl, rfl, rfl⟩ := hgrant tok' w1' hs' w2' hg hh
    rw [request_run' ra _ hsess (hcfg ▸ hurl)] at h3
    have hlen := congrArg (fun p : Except Fault String × ClientWorld => p.2.outside.network.sent.length) h3
    simp [Network.send_sent] at hlen
  · -- the action went out, last
    refine ⟨l1 ++ l2 ++ [ra.toHttp url w2.client.timeout], ?_, fun req hr hs => ?_, ?_⟩
    · simp only [Network.send_sent, hsent12, List.append_assoc]
    · have hreq : req = ra.toHttp url w2.client.timeout := by
        rcases List.mem_append.1 hr with hr | hr
        · exact (hnone req hr hs).elim
        · exact List.mem_singleton.1 hr
      subst hreq
      exact ⟨tok, w1, appHeaderList t tok, w2, url, actionSecurityToken_ok_iff.1 h1, h2, hcfg ▸ hurl, rfl,
        by simp, actionRequest_secToken template vin body ty t tok url w2.client.timeout⟩
    · intro tok' w1' hs' w2' url' hg hh _ hurl'
      obtain ⟨rfl, rfl, rfl, rfl⟩ := hgrant tok' w1' hs' w2' hg hh
      rw [← hcfg, hurl] at hurl'
      cases hurl'
      exact List.mem_append_right _ (List.mem_singleton_self _)

/-! ## Climatisation and window heating -/

theorem Sends.sendAction {P : HttpRequest → Prop} {template vin body ty : String} {hs : List (String × String)}
    (h : ∀ url t, P ((actionRequest template vin body ty hs).toHttp url t)) :
    Sends P (sendAction template vin body ty hs) fun _ => True :=
  Sends.bind (Sends.request h) fun _ _ => Sends.lift fun _ _ => trivial

/-- **Climatisation actions send POSTs only**: the tokens, then the action; never the GET of a PIN
challenge. -/
theorem climaterAction_posts (vin actionType : String) :
    Sends (fun req => req.method = "POST") (climaterAction vin actionType) fun _ => True := by
  have hP : TokenRequestsAre fun req => req.method = "POST" := fun _ _ _ _ => ⟨rfl, rfl, rfl⟩
  unfold climaterAction
  rw [Exec.discard_eq_bind]
  have hsec : Sends (fun req => req.method = "POST") (createSecurityToken >>= fun _ => pure ()) fun _ => True :=
    Sends.bind (Sends.createSecurityToken hP) fun _ _ => Sends.pure trivial
  refine Sends.bind hsec fun _ _ => ?_
  exact Sends.bind (Sends.appHeaders hP "") fun _ _ => Sends.sendAction fun _ _ => rfl

/-! ## The PIN answer -/

/-- The answer to a challenge is the upper-case hexadecimal SHA-512 digest of the PIN's bytes, with a
leading zero for an odd length, followed by the challenge's bytes. -/
theorem pinHash_eq_ok {pin ch hash : String} :
    pinHash pin ch = .ok hash ↔ ∃ p c, hexBytes (evenPin pin) = .ok p ∧ hexBytes ch = .ok c ∧
      hash = Text.upperHex (Digest.sha512 (p ++ c)) := by
  -- the challenge is text, so it reads as the text itself
  simp only [pinHash, pinHashOf, challengeText, bind, Except.bind]
  cases hexBytes (evenPin pin) with
  | error f => simp
  | ok p =>
    cases hexBytes ch with
    | error f => simp
    | ok c => simp [pure, Except.pure, eq_comm]

/-- **Privileged actions wait for their PIN.**  Locking and the auxiliary heater send their action as
`ActionLaw` says; the PIN phase grants a token exactly as `PinGrants` says, with the answer's hash as
`pinHash_eq_ok` gives it; and climatisation and window heating send POSTs only. -/
theorem privilegedActions_law (vin : String) (w : ClientWorld) :
    (∀ lock, ActionLaw vin (if lock then lockAction else unlockAction) lockActionsUri (lockBody lock)
      lockActionType w ((lockDoor vin lock).run' w).2) ∧
    (∀ start, ActionLaw vin preHeatAction preHeaterActionUri (preHeaterBody start).toRequestText
      preHeaterActionType w ((controlPreHeating vin start).run' w).2) ∧
    (∀ action tok w', (actionSecurityToken vin action).run' w = (.ok tok, w') ↔ PinGrants vin action w tok w') ∧
    (∀ pin ch hash, pinHash pin ch = .ok hash ↔ ∃ p c, hexBytes (evenPin pin) = .ok p ∧ hexBytes ch = .ok c ∧
      hash = Text.upperHex (Digest.sha512 (p ++ c))) ∧
    (∀ start, Sends (fun req => req.method = "POST") (climaControl vin start) fun _ => True) ∧
    (∀ start, Sends (fun req => req.method = "POST") (controlWindowHeating vin start) fun _ => True) :=
  ⟨fun _ => guardedAction_law vin _ _ _ _ (by decide) w, fun _ => guardedAction_law vin _ _ _ _ (by decide) w,
    fun _ _ _ => actionSecurityToken_ok_iff, fun _ _ _ => pinHash_eq_ok,
    fun _ => climaterAction_posts vin _, fun _ => climaterAction_posts vin _⟩

end Vehicle
end ConnectedHome
