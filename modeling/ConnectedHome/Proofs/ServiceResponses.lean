import ConnectedHome.Proofs.Addresses
/-!
# ServiceResponses — what a request to the vehicle service yields

A request with a session and an address sends exactly one request to the network and settles
what came back (`request_run'`).  An answer's text is cleaned (tabs, then CR LF pairs removed,
then blanks trimmed) and then:

- returned, exactly when it holds no error report (`"error":`), the status is 200, 201 or 202
  and the text is not empty;
- otherwise raised as a failure of the vehicle service that records the method, the address,
  the status and the cleaned text: a refusal of the credentials when the status is 401, or the
  text holds an error report and the request asked for a token or the report names a refused
  credential or the gateway's authorization code; a failure of the service in every other case.

A timeout or a refused connection is a connection failure with status 0.

The one way out of this law is an error report that cannot be read (`reportOf_eq_error_iff`): a
text that holds `"error":` and reads as a document that is not an object (a list of objects, say),
or is too large or too deeply nested to read.  Its reading fault is raised as it is, and it is no
failure of the vehicle service (`request_law_iff`).
-/
namespace ConnectedHome
namespace Vehicle

open Http

/-- **The law of an answered request**, for the exchange `x` holding the status and the cleaned
text: what the request yields, and the class and exchange of what it raises. -/
def AnsweredLaw (forToken : Bool) (x : Exchange) (out : Except Fault String) : Prop :=
  let t := x.response
  let accepted := t.contains "\"error\":" = false ∧ (x.status = 200 ∨ x.status = 201 ∨ x.status = 202) ∧ t ≠ ""
  (out = .ok t ↔ accepted) ∧
  (¬ accepted → ∃ kind msg y, out = .error (.vehicle kind msg y) ∧
    y.method = x.method ∧ y.url = x.url ∧ y.status = x.status ∧ y.response = t ∧
    (kind = .authentication ↔ x.status = 401 ∨ (t.contains "\"error\":" = true ∧ ∃ rep, reportOf t = .ok rep ∧
      (forToken = true ∨ rep.error ∈ ["invalid_grant", "invalid_client", "unauthorized_client", "access_denied"] ∨
        rep.code = "gw.error.authorization"))) ∧
    (kind ≠ .authentication → kind = .api))

/-- **The law of a request by what the network did with it**: an answer's text is cleaned and judged
by `AnsweredLaw`; a timeout or a refused connection is a connection failure with status 0; a broken
transport passes its failure on. -/
def OutcomeLaw (forToken : Bool) (method url : String) : HttpOutcome → Except Fault String → Prop
  | .answered s b _, out =>
    AnsweredLaw forToken
      { method, url, status := s, response := Text.trimBlanks ((b.replace "\t" "").replace "\r\n" "") } out
  | .timedOut _, out | .refused _, out =>
    ∃ msg y, out = .error (.vehicle .connection msg y) ∧ y.method = method ∧ y.url = url ∧ y.status = 0
  | .crashed m, out => out = .error (.runtime m)

/-- Whether the error report of a text can be read, whenever the text holds one. -/
def ReportReadable (t : String) : Prop := t.contains "\"error\":" = true → ∃ rep, reportOf t = .ok rep

/-! ## Sending -/

/-- **A request with a session and an address** sends one request and settles what came back;
the client stays as it was. -/
theorem request_run' (r : ServiceRequest) (w : ClientWorld) {url : String} (hs : w.client.hasSession = true)
    (hurl : r.address w.client.config = .ok url) :
    (request r).run' w =
      (settle r.forToken { method := r.method, url } (w.outside.network.send (r.toHttp url w.client.timeout)).1,
        { w with outside := { w.outside with
          network := (w.outside.network.send (r.toHttp url w.client.timeout)).2 } }) := by
  simp only [request, client, sendOut, Outside.send, Exec.run'_bind, Exec.run'_get, Exec.run'_pure, hs,
    Bool.not_true, Bool.false_eq_true, if_false, Exec.run'_lift, hurl, Exec.run'_focus, Exec.run'_ofRun]

theorem request_no_session (r : ServiceRequest) (w : ClientWorld) (hs : w.client.hasSession = false) :
    (request r).run' w = (.error (serviceFault .connection "Not connected to CarNet"), w) := by
  simp only [request, client, Exec.run'_bind, Exec.run'_get, Exec.run'_pure, hs, Bool.not_false, if_true,
    Exec.run'_throw]

theorem request_address_error (r : ServiceRequest) (w : ClientWorld) {f : Fault}
    (hs : w.client.hasSession = true) (hurl : r.address w.client.config = .error f) :
    (request r).run' w = (.error f, w) := by
  simp only [request, client, Exec.run'_bind, Exec.run'_get, Exec.run'_pure, hs, Bool.not_true,
    Bool.false_eq_true, if_false, Exec.run'_lift, hurl]

/-! ## Judging an answer -/

section Judge

variable (forToken : Bool) (x : Exchange)

theorem judgeResponse_of_report {rep : ErrorReport} (hc : x.response.contains "\"error\":" = true)
    (hr : reportOf x.response = .ok rep) :
    judgeResponse forToken x =
      .error (serviceFault (if refusesCredentials forToken x.status rep then .authentication else .api)
        (if refusesCredentials forToken x.status rep
          then s!"Authentication failed ({rep.code}, {rep.error}): {rep.description}"
          else s!"API call failed ({rep.code}, {rep.error}): {rep.description}")
        { x with report := rep }) := by
  simp only [judgeResponse, hc, if_true, hr, bind, Except.bind]
  cases refusesCredentials forToken x.status rep <;> rfl

theorem judgeResponse_of_unread {f : Fault} (hc : x.response.contains "\"error\":" = true)
    (hr : reportOf x.response = .error f) : judgeResponse forToken x = .error f := by
  simp only [judgeResponse, hc, if_true, hr]
  rfl

theorem judgeResponse_of_clean (hc : x.response.contains "\"error\":" = false) :
    judgeResponse forToken x =
      if x.status = 401 then .error (serviceFault .authentication "Authentication failed" x)
      else if x.statusOk = false then .error (serviceFault .api s!"API call failed: HTTP {x.status}" x)
      else if x.response = "" then
        .error (serviceFault .api "Invalid result received from API, maybe URL problem" x)
      else .ok x.response := by
  simp only [judgeResponse, hc, Bool.false_eq_true, if_false]
  by_cases h401 : x.status = 401
  · simp [h401]; rfl
  · by_cases hok : x.statusOk = false
    · simp [h401, hok]; rfl
    · by_cases he : x.response = ""
      · simp [h401, hok, he]; rfl
      · simp [h401, hok, he]; rfl

theorem refusesCredentials_iff {status : Int} {rep : ErrorReport} :
    refusesCredentials forToken status rep = true ↔ forToken = true ∨ status = 401 ∨
      rep.error ∈ ["invalid_grant", "invalid_client", "unauthorized_client", "access_denied"] ∨
      rep.code = "gw.error.authorization" := by
  simp [refusesCredentials, refusedCredentials, gatewayAuthorizationCode, or_assoc]

theorem Exchange.statusOk_iff : x.statusOk = true ↔ x.status = 200 ∨ x.status = 201 ∨ x.status = 202 := by
  simp [Exchange.statusOk, or_assoc]

end Judge

/-! ## Requests, unpacked -/

/-- An accepted answer yields its cleaned text. -/
theorem judgeResponse_eq_ok {forToken : Bool} {x : Exchange} {text : String}
    (h : judgeResponse forToken x = .ok text) : text = x.response := by
  cases hc : x.response.contains "\"error\":"
  · rw [judgeResponse_of_clean forToken x hc] at h
    repeat (split at h; · cases h)
    cases h
    rfl
  · cases hr : reportOf x.response with
    | ok rep => rw [judgeResponse_of_report forToken x hc hr] at h; cases h
    | error f => rw [judgeResponse_of_unread forToken x hc hr] at h; cases h

/-- **What a request that succeeds did**: it went out to its address and the network answered; the
text is the cleaned body, and only the network changed. -/
theorem request_ok_inv {r : ServiceRequest} {w w' : ClientWorld} {text : String}
    (h : (request r).run' w = (.ok text, w')) :
    ∃ url s b reason, w.client.hasSession = true ∧ r.address w.client.config = .ok url ∧
      (w.outside.network.send (r.toHttp url w.client.timeout)).1 = .answered s b reason ∧
      text = cleanResponse b ∧
      w' = { w with outside := { w.outside with
        network := (w.outside.network.send (r.toHttp url w.client.timeout)).2 } } := by
  cases hs : w.client.hasSession
  · rw [request_no_session r w hs] at h
    cases h
  cases hurl : r.address w.client.config with
  | error f =>
    rw [request_address_error r w hs hurl] at h
    cases h
  | ok url =>
    rw [request_run' r w hs hurl] at h
    simp only [Prod.mk.injEq] at h
    obtain ⟨hset, rfl⟩ := h
    cases ho : (w.outside.network.send (r.toHttp url w.client.timeout)).1 with
    | answered s b reason =>
      rw [ho, settle] at hset
      have htext := judgeResponse_eq_ok hset
      exact ⟨url, s, b, reason, rfl, rfl, ho, htext, rfl⟩
    | _ => rw [ho] at hset; cases hset

/-- **What a request that fails did**: nothing, or it went out to its address; only the network
changed. -/
theorem request_error_inv {r : ServiceRequest} {w w' : ClientWorld} {f : Fault}
    (h : (request r).run' w = (.error f, w')) :
    w' = w ∨ ∃ url, r.address w.client.config = .ok url ∧
      w' = { w with outside := { w.outside with
        network := (w.outside.network.send (r.toHttp url w.client.timeout)).2 } } := by
  cases hs : w.client.hasSession
  · rw [request_no_session r w hs] at h
    cases h
    exact .inl rfl
  cases hurl : r.address w.client.config with
  | error f' =>
    rw [request_address_error r w hs hurl] at h
    cases h
    exact .inl rfl
  | ok url =>
    rw [request_run' r w hs hurl] at h
    simp only [Prod.mk.injEq] at h
    exact .inr ⟨url, rfl, h.2.symm⟩

/-! ## Reading an error report -/

/-- Reading an object as an error report always succeeds. -/
theorem ErrorReport.read_obj (ms : Members) : ∃ rep, ErrorReport.read (.obj ms) = .ok rep := by
  simp only [ErrorReport.read, Value.get, Value.getD]
  split
  · exact ⟨_, rfl⟩
  generalize (List.lookup "error" ms).getD Value.null = err
  cases err with
  | obj members =>
    generalize (List.lookup "details" members).getD Value.null = details
    simp only [bind, Except.bind, pure, Except.pure]
    split <;> exact ⟨_, rfl⟩
  | _ => exact ⟨_, rfl⟩

/-- Anything but an object is an empty report when it counts as absent, and has no members to
read otherwise. -/
theorem ErrorReport.read_of_not_obj {doc : Value} (h : doc.isObj = false) :
    ErrorReport.read doc = if doc.truthy then .error (Fault.noGet doc) else .ok {} := by
  have hget : doc.get "error" = .error (Fault.noGet doc) := by
    cases doc <;> simp_all [Value.get, Value.isObj]
  simp only [ErrorReport.read, hget]
  cases doc.truthy <;> rfl

/-- **When an error report cannot be read**: the text is a document that is not an object and
counts as present, or it is too large or too deeply nested to read. -/
theorem reportOf_eq_error_iff (t : String) (f : Fault) :
    reportOf t = .error f ↔
      (∃ doc, readDocument t = .ok doc ∧ doc.truthy = true ∧ doc.isObj = false ∧ f = Fault.noGet doc) ∨
      (∃ e, readDocument t = .error e ∧ e.isMalformed = false ∧ f = e.toFault) := by
  unfold reportOf
  cases hd : readDocument t with
  | ok doc =>
    dsimp only
    cases ho : doc.isObj
    · rw [ErrorReport.read_of_not_obj ho]
      cases htr : doc.truthy
      · simp [htr]
      · rw [if_pos rfl]
        constructor
        · intro h
          cases h
          exact .inl ⟨doc, rfl, htr, ho, rfl⟩
        · rintro (⟨d, hd', -, -, rfl⟩ | ⟨e, he, -⟩)
          · cases hd'
            rfl
          · cases he
    · obtain ⟨ms, rfl⟩ : ∃ ms, doc = .obj ms := by cases doc <;> simp_all [Value.isObj]
      obtain ⟨rep, hr⟩ := ErrorReport.read_obj ms
      simp [hr, Value.isObj]
  | error e =>
    dsimp only
    cases hm : e.isMalformed
    · simp only [Bool.false_eq_true, if_false, Except.error.injEq]
      constructor
      · rintro rfl
        exact .inr ⟨e, rfl, hm, rfl⟩
      · rintro (⟨doc, h, -⟩ | ⟨e', h, -, rfl⟩) <;> cases h
        rfl
    · simp only [if_true]
      constructor
      · intro h
        cases h
      · rintro (⟨doc, h, -⟩ | ⟨e', h, hm', -⟩) <;> cases h
        simp [hm] at hm'

/-- A report that cannot be read fails with a fault of the reading, not of the vehicle service. -/
theorem reportOf_error_not_vehicle {t : String} {f : Fault} (h : reportOf t = .error f) :
    f.isVehicle = false := by
  rcases (reportOf_eq_error_iff t f).1 h with ⟨doc, -, -, -, rfl⟩ | ⟨e, -, -, rfl⟩
  · rfl
  · cases e <;> rfl

/-! ## The law of an answer -/

section Law

variable (forToken : Bool) (x : Exchange)

/-- **A readable error report** is raised with the exchange, as a refusal of the credentials exactly
when the law says so. -/
theorem answeredLaw_of_report {rep : ErrorReport} (hc : x.response.contains "\"error\":" = true)
    (hr : reportOf x.response = .ok rep) : AnsweredLaw forToken x (judgeResponse forToken x) := by
  rw [judgeResponse_of_report forToken x hc hr]
  refine ⟨by simp [hc], fun _ => ⟨_, _, _, rfl, rfl, rfl, rfl, rfl, ?_, ?_⟩⟩
  · have hcond : (x.status = 401 ∨ (x.response.contains "\"error\":" = true ∧ ∃ rep', reportOf x.response = .ok rep' ∧
        (forToken = true ∨ rep'.error ∈ ["invalid_grant", "invalid_client", "unauthorized_client", "access_denied"] ∨
          rep'.code = "gw.error.authorization"))) ↔ refusesCredentials forToken x.status rep = true := by
      rw [refusesCredentials_iff, hc, hr]
      simp only [Except.ok.injEq, exists_eq_left', true_and]
      exact or_left_comm
    rw [hcond]
    cases refusesCredentials forToken x.status rep <;> simp
  · split <;> simp

/-- **An unreadable error report** escapes the law: its reading fault is no failure of the vehicle
service. -/
theorem not_answeredLaw_of_unread {f : Fault} (hc : x.response.contains "\"error\":" = true)
    (hr : reportOf x.response = .error f) : ¬ AnsweredLaw forToken x (judgeResponse forToken x) := by
  rw [judgeResponse_of_unread forToken x hc hr]
  rintro ⟨-, hlaw⟩
  obtain ⟨kind, msg, y, hf, -⟩ := hlaw (by simp [hc])
  have hv := reportOf_error_not_vehicle hr
  cases hf
  simp [Fault.isVehicle] at hv

/-- **A text without an error report** is judged by its status and whether it is empty. -/
theorem answeredLaw_of_clean (hc : x.response.contains "\"error\":" = false) :
    AnsweredLaw forToken x (judgeResponse forToken x) := by
  rw [judgeResponse_of_clean forToken x hc]
  have hok := Exchange.statusOk_iff x
  by_cases h401 : x.status = 401
  · rw [if_pos h401]
    refine ⟨by simp [h401], fun _ => ⟨_, _, _, rfl, rfl, rfl, rfl, rfl, by simp [h401], by simp⟩⟩
  · rw [if_neg h401]
    by_cases hs : x.statusOk = false
    · rw [if_pos hs]
      have hs' : ¬ (x.status = 200 ∨ x.status = 201 ∨ x.status = 202) := by rw [← hok, hs]; simp
      refine ⟨by simp [hs'], fun _ => ⟨_, _, _, rfl, rfl, rfl, rfl, rfl, by simp [h401, hc], by simp⟩⟩
    · rw [if_neg hs]
      have hs' : x.status = 200 ∨ x.status = 201 ∨ x.status = 202 := by simpa [← hok] using hs
      by_cases he : x.response = ""
      · rw [if_pos he]
        refine ⟨by simp [he], fun _ => ⟨_, _, _, rfl, rfl, rfl, rfl, rfl, by simp [h401, hc], by simp⟩⟩
      · rw [if_neg he]
        exact ⟨by simp [hc, hs', he], fun hn => absurd ⟨hc, hs', he⟩ hn⟩

/-- **The law holds of every answer whose error report, if any, can be read**, and of no other. -/
theorem answeredLaw_judgeResponse_iff :
    AnsweredLaw forToken x (judgeResponse forToken x) ↔ ReportReadable x.response := by
  cases hc : x.response.contains "\"error\":"
  · exact iff_of_true (answeredLaw_of_clean forToken x hc) (fun h => by rw [hc] at h; cases h)
  · cases hr : reportOf x.response with
    | ok rep => exact iff_of_true (answeredLaw_of_report forToken x hc hr) (fun _ => ⟨rep, hr⟩)
    | error f =>
      refine iff_of_false (not_answeredLaw_of_unread forToken x hc hr) ?_
      rintro h
      obtain ⟨rep, hrep⟩ := h hc
      rw [hr] at hrep
      cases hrep

end Law

/-! ## Requests -/

/-- **The law of a settled outcome** holds exactly when an answer's error report, if it has one,
can be read. -/
theorem outcomeLaw_settle_iff (forToken : Bool) (method url : String) (o : HttpOutcome) :
    OutcomeLaw forToken method url o (settle forToken { method, url } o) ↔
      ∀ s b reason, o = .answered s b reason → ReportReadable (cleanResponse b) := by
  cases o with
  | answered s b reason =>
    refine (answeredLaw_judgeResponse_iff forToken _).trans ⟨fun h _ _ _ he => ?_, fun h => h s b reason rfl⟩
    cases he
    exact h
  | timedOut m => exact iff_of_true ⟨_, _, rfl, rfl, rfl, rfl⟩ (fun _ _ _ h => by cases h)
  | refused m => exact iff_of_true ⟨_, _, rfl, rfl, rfl, rfl⟩ (fun _ _ _ h => by cases h)
  | crashed m => exact iff_of_true rfl (fun _ _ _ h => by cases h)

/-- **What a request to the vehicle service yields.**  With a session and an address, whatever the
network does with the request: an answer is returned as its cleaned text exactly when that text holds
no error report, the status is 200, 201 or 202 and the text is not empty, and is raised otherwise as a
failure of the vehicle service with the method, the address, the status and the text, a refusal of the
credentials exactly for status 401 or an error report of a token request, of a refused credential or
of the gateway's authorization code; a timeout or a refused connection is a connection failure with
status 0.  All of this holds exactly when the error report of the answer, if it has one, can be read. -/
theorem request_law_iff (r : ServiceRequest) (w : ClientWorld) {url : String}
    (hs : w.client.hasSession = true) (hurl : r.address w.client.config = .ok url) :
    OutcomeLaw r.forToken r.method url (w.outside.network.send (r.toHttp url w.client.timeout)).1
        ((request r).run' w).1 ↔
      ∀ s b reason, (w.outside.network.send (r.toHttp url w.client.timeout)).1 = .answered s b reason →
        ReportReadable (cleanResponse b) := by
  rw [request_run' r w hs hurl]
  exact outcomeLaw_settle_iff r.forToken r.method url _

theorem request_law_iff_identityToken :
    let r : ServiceRequest := { method := "POST", template := identityTokenUrl, forToken := true }
    let w : ClientWorld :=
      { client := { config := { user := "user", password := "secret" } },
        outside := { network := { routes := [{ outcome := .answered 200 "[\x7b\"error\": 1\x7d]" "OK" }] } } }
    w.client.hasSession = true ∧ r.address w.client.config = .ok "https://id.audi.com/v1/token" ∧
      (OutcomeLaw r.forToken r.method "https://id.audi.com/v1/token"
          (w.outside.network.send (r.toHttp "https://id.audi.com/v1/token" w.client.timeout)).1
          ((request r).run' w).1 ↔
        ∀ s b reason,
          (w.outside.network.send (r.toHttp "https://id.audi.com/v1/token" w.client.timeout)).1 =
            .answered s b reason → ReportReadable (cleanResponse b)) := by
  have hurl := AccountConfig.brandUrl_absolute { user := "user", password := "secret" } identityTokenUrl ""
    (by simp [identityTokenUrl]) (by simp [identityTokenUrl]; decide)
  exact ⟨rfl, hurl, request_law_iff _ _ rfl hurl⟩

end Vehicle
end ConnectedHome
