import ConnectedHome.Proofs.Alike
import ConnectedHome.Vehicle.Diagnostics
import ConnectedHome.Vehicle.Flows
/-!
# What the diagnostics of a vehicle entry disclose

The credentials of the account, that is the user name, the password and the security PIN, reach
the outside world only in the bodies of the token requests.  Where a request goes and what comes
back depends on its method and its address alone, so an observer that does not see those bodies
cannot tell two accounts apart that differ in their credentials only (`ClientWorld.observed`).
Every call of the client is alike with itself for that observer (`request_alike`,
`createAccessToken_alike`, `getRaw_alike`), and so are the additional data sets and the
diagnostics as a whole (`vehicleDiagnostics_alike`).

The entry's data, the vehicle and the additional data are redacted by member name at any depth
(`concealed_redact`), so a member that holds a credential shows only that it was set.  The title is
shown as it is, and the account step of the configuration flow titles the entry with its vehicle
identification number (`carUserStep_createEntry`): the diagnostics show that number.
-/
namespace ConnectedHome

open Exec

/-- The outside world without the record of requests sent, which holds what the requests
carried. -/
def Outside.observed (o : Outside) : Outside := { o with network := o.network.clearSent }

/-- Two requests with the same method and address get the same answer from outside worlds that
look alike, and leave them alike. -/
theorem Outside.send_alike {q₁ q₂ : Http.HttpRequest} (hm : q₁.method = q₂.method)
    (hu : q₁.url = q₂.url) : Alike Outside.observed Eq (Outside.send q₁) (Outside.send q₂) := by
  intro o₁ o₂ ho
  have hroutes : o₁.network.routes = o₂.network.routes := (congrArg (·.network.routes) ho :)
  have hclock : o₁.clock = o₂.clock := (congrArg Outside.clock ho :)
  simp [Outside.send, Http.Network.send, Http.noRoute, Outside.observed, Http.Network.clearSent,
    hm, hu, hroutes, hclock]

namespace Hub

/-- Whether a value shows nothing of what a hidden member held: null, empty text or the
redaction mark. -/
def showsNothing : Value → Bool
  | .null => true
  | .str s => s.isEmpty || s == redacted
  | _ => false

mutual
/-- Whether every member named in `keys`, at any depth of a document, shows nothing of what it
held. -/
def concealed (keys : List String) : Value → Bool
  | .obj ms => membersConcealed keys ms
  | .list xs => listConcealed keys xs
  | _ => true

/-- `concealed` for every element of a list. -/
def listConcealed (keys : List String) : List Value → Bool
  | [] => true
  | v :: vs => concealed keys v && listConcealed keys vs

/-- `concealed` for the members of an object: a member named in `keys` shows nothing, any other
is concealed itself. -/
def membersConcealed (keys : List String) : List (String × Value) → Bool
  | [] => true
  | (k, v) :: ms =>
    (if keys.contains k then showsNothing v else concealed keys v) && membersConcealed keys ms
end

mutual
/-- **Redaction conceals**: in a redacted document, every member named in `keys`, at any depth,
shows nothing of what it held. -/
theorem concealed_redact (keys : List String) : ∀ v, concealed keys (redact keys v) = true
  | .obj ms => by
    rw [redact, concealed]
    exact membersConcealed_redactMembers keys ms
  | .list xs => by
    rw [redact, concealed]
    exact listConcealed_redactList keys xs
  | .null | .bool _ | .int _ | .float _ | .str _ => rfl

theorem listConcealed_redactList (keys : List String) :
    ∀ xs, listConcealed keys (redactList keys xs) = true
  | [] => rfl
  | v :: vs => by
    rw [redactList, listConcealed, concealed_redact keys v, listConcealed_redactList keys vs]
    rfl

theorem membersConcealed_redactMembers (keys : List String) :
    ∀ ms, membersConcealed keys (redactMembers keys ms) = true
  | [] => rfl
  | (k, v) :: ms => by
    have hrest := membersConcealed_redactMembers keys ms
    have hv := concealed_redact keys v
    simp only [redactMembers, membersConcealed, hrest, Bool.and_true]
    split
    · -- a hidden member shows nothing of what it held
      split <;> simp [showsNothing, redacted]
    · -- any other member is concealed itself
      split
      · rfl
      · rfl
      · exact hv
end

/-- How member `k` holding `v` is shown: null and empty text as they are, a member named in
`keys` by the redaction mark, any other redacted inside. -/
def redactMember (keys : List String) (k : String) (v : Value) : Value :=
  match v with
  | .null => v
  | .str "" => v
  | _ => if keys.contains k then .str redacted else redact keys v

theorem redactMember_hidden {keys : List String} {k s : String} (hk : keys.contains k = true)
    (hs : s ≠ "") : redactMember keys k (.str s) = .str redacted := by
  have hmem : k ∈ keys := by simpa using hk
  simp [redactMember, hmem, hs]

theorem redactMembers_eq_map (keys : List String) (ms : List (String × Value)) :
    redactMembers keys ms = ms.map fun m => (m.1, redactMember keys m.1 m.2) := by
  induction ms with
  | nil => rfl
  | cons m ms ih =>
    obtain ⟨k, v⟩ := m
    rw [List.map_cons, ← ih]
    rfl

/-- **Redacting commutes with writing a member**: the member written shows as `redactMember`
shows it. -/
theorem redactMembers_put (keys : List String) (ms : Members) (k : String) (v : Value) :
    redactMembers keys (ms.put k v) = Members.put (redactMembers keys ms) k (redactMember keys k v) := by
  simp only [redactMembers_eq_map, Members.put, List.any_map, Function.comp_def]
  split
  · -- the member is there: written in place, before or after the redaction alike
    simp only [List.map_map, Function.comp_def]
    congr 1
    funext m
    split <;> simp_all
  · simp

end Hub

namespace Vehicle

open Hub

/-- The account with its credentials blanked: the user name, the password and the PIN. -/
def AccountConfig.withoutCredentials (a : AccountConfig) : AccountConfig :=
  { a with user := "", password := "", spin := "" }

/-- The client as an observer sees it: its account without the credentials. -/
def VehicleClient.observed (c : VehicleClient) : VehicleClient :=
  { c with config := c.config.withoutCredentials }

/-- The client and the outside world as an observer sees them. -/
def ClientWorld.observed (w : ClientWorld) : ClientWorld := ⟨w.client.observed, w.outside.observed⟩

theorem ClientWorld.observed_eq_iff {w₁ w₂ : ClientWorld} :
    w₁.observed = w₂.observed ↔
      w₁.client.observed = w₂.client.observed ∧ w₁.outside.observed = w₂.outside.observed := by
  constructor
  · intro h
    exact ⟨(congrArg ClientWorld.client h :), (congrArg ClientWorld.outside h :)⟩
  · rintro ⟨hc, ho⟩
    simp only [ClientWorld.observed, hc, ho]

/-- A request without its headers and body: what decides where it goes. -/
def ServiceRequest.withoutContent (r : ServiceRequest) : ServiceRequest :=
  { r with headers := [], body := none, contentType := none }

theorem ServiceRequest.address_withoutContent (r : ServiceRequest) (a : AccountConfig) :
    r.withoutContent.address a.withoutCredentials = r.address a := rfl

theorem client_alike :
    Alike ClientWorld.observed (fun c₁ c₂ => c₁.observed = c₂.observed) client client :=
  Alike.bind Alike.get fun _ _ hw => Alike.pure (ClientWorld.observed_eq_iff.1 hw).1

theorem now_alike : Alike ClientWorld.observed Eq now now :=
  Alike.bind Alike.get fun _ _ hw => Alike.pure (congrArg (·.outside.clock) hw :)

theorem expiredNow_alike (t : HeldToken) : Alike ClientWorld.observed Eq (expiredNow t) (expiredNow t) :=
  Alike.bind now_alike fun _ _ hc => Alike.lift (by rw [hc]; exact outcomes_eq.2 rfl)

theorem modifyClient_alike {f : VehicleClient → VehicleClient}
    (hf : ∀ c₁ c₂, c₁.observed = c₂.observed → (f c₁).observed = (f c₂).observed) :
    Alike ClientWorld.observed Eq (modifyClient f) (modifyClient f) :=
  Alike.modify fun _ _ hw =>
    let ⟨hc, ho⟩ := ClientWorld.observed_eq_iff.1 hw
    ClientWorld.observed_eq_iff.2 ⟨hf _ _ hc, ho⟩

theorem sendOut_alike {q₁ q₂ : Http.HttpRequest} (hm : q₁.method = q₂.method) (hu : q₁.url = q₂.url) :
    Alike ClientWorld.observed Eq (sendOut q₁) (sendOut q₂) := by
  unfold sendOut
  refine Alike.focus (w := Outside.observed) ?_ ?_ (Outside.send_alike hm hu)
  · intro w₁ w₂ hw
    exact (ClientWorld.observed_eq_iff.1 hw).2
  · intro w₁ w₂ o₁ o₂ hw ho
    exact ClientWorld.observed_eq_iff.2 ⟨(ClientWorld.observed_eq_iff.1 hw).1, ho⟩

/-- **Requests that differ in their headers and body only** yield the same text or fault, under
accounts that differ in their credentials only. -/
theorem request_alike {r₁ r₂ : ServiceRequest} (hr : r₁.withoutContent = r₂.withoutContent) :
    Alike ClientWorld.observed Eq (request r₁) (request r₂) := by
  have hm : r₁.method = r₂.method := (congrArg ServiceRequest.method hr :)
  have ht : r₁.forToken = r₂.forToken := (congrArg ServiceRequest.forToken hr :)
  unfold request
  refine Alike.bind client_alike fun c₁ c₂ hc => ?_
  have hsession : c₁.hasSession = c₂.hasSession := (congrArg VehicleClient.hasSession hc :)
  -- the address is built from the template and the account's brand, country and home region
  have haddress : r₁.address c₁.config = r₂.address c₂.config := by
    rw [← r₁.address_withoutContent, ← r₂.address_withoutContent, hr]
    exact congrArg (r₂.withoutContent.address ·.config) hc
  dsimp only
  rw [hsession]
  split
  · exact Alike.throw_bind
  · refine Alike.bind (Alike.lift (R := Eq) (by rw [haddress]; exact outcomes_eq.2 rfl))
      fun url₁ url₂ (hurl : url₁ = url₂) => ?_
    refine Alike.bind (sendOut_alike (by exact hm) (by exact hurl)) fun o₁ o₂ (ho : o₁ = o₂) => ?_
    rw [hm, ht, hurl, ho]
    exact Alike.lift (outcomes_eq.2 rfl)

/-- **A token renewed when expired**: the token the client holds, or the one `renew` asks for, is
alike for accounts that differ in their credentials only. -/
theorem renewExpired_alike {held : VehicleClient → HeldToken} {renew : AccountConfig → ClientM HeldToken}
    (hheld : ∀ c₁ c₂, c₁.observed = c₂.observed → held c₁ = held c₂)
    (hrenew : ∀ a₁ a₂, a₁.withoutCredentials = a₂.withoutCredentials →
      Alike ClientWorld.observed Eq (renew a₁) (renew a₂)) :
    Alike ClientWorld.observed Eq (renewExpired held renew) (renewExpired held renew) := by
  unfold renewExpired
  refine Alike.bind client_alike fun c₁ c₂ hc => ?_
  rw [hheld c₁ c₂ hc]
  refine Alike.bind (expiredNow_alike (held c₂)) fun b₁ b₂ (hb : b₁ = b₂) => ?_
  rw [hb]
  split
  · exact Alike.pure rfl
  · exact hrenew _ _ (congrArg VehicleClient.config hc :)

/-- **Asking for a token** with requests that differ in their body only: the token issued, and
the client that holds it, are alike. -/
theorem issueToken_alike {r₁ r₂ : ServiceRequest} (hr : r₁.withoutContent = r₂.withoutContent)
    (present : IssuedToken → Value) {store : VehicleClient → HeldToken → VehicleClient}
    (hstore : ∀ c₁ c₂ t, c₁.observed = c₂.observed → (store c₁ t).observed = (store c₂ t).observed)
    (refusal : String) :
    Alike ClientWorld.observed Eq (issueToken r₁ present store refusal)
      (issueToken r₂ present store refusal) := by
  unfold issueToken
  refine Alike.bind (request_alike hr) fun text₁ text₂ (htext : text₁ = text₂) => ?_
  rw [htext]
  refine Alike.bind (Alike.lift (outcomes_eq.2 rfl)) fun i₁ i₂ (hi : i₁ = i₂) => ?_
  rw [hi]
  dsimp only
  split
  · exact Alike.throw_bind
  · refine Alike.bind now_alike fun t₁ t₂ (ht : t₁ = t₂) => ?_
    rw [ht]
    exact Alike.bind (modifyClient_alike fun c₁ c₂ hc => hstore c₁ c₂ _ hc) fun _ _ _ => Alike.pure rfl

theorem createAccessToken_alike : Alike ClientWorld.observed Eq createAccessToken createAccessToken := by
  refine renewExpired_alike (fun _ _ hc => (congrArg VehicleClient.apiToken hc :)) fun a₁ a₂ _ => ?_
  refine issueToken_alike ?_ _ (fun _ _ t hc => (congrArg ({ · with apiToken := t }) hc :)) _
  -- the two requests differ in the credentials of their bodies only
  rfl

theorem appHeaders_alike (actionToken : String) :
    Alike ClientWorld.observed Eq (appHeaders actionToken) (appHeaders actionToken) :=
  Alike.bind createAccessToken_alike fun _ _ ht => Alike.pure (by rw [ht])

theorem getObject_alike (template vin : String) (named : List (String × String)) :
    Alike ClientWorld.observed Eq (getObject template vin named) (getObject template vin named) := by
  unfold getObject
  refine Alike.bind (appHeaders_alike "") fun _ _ _ => ?_
  refine Alike.bind (request_alike rfl) fun t₁ t₂ (ht : t₁ = t₂) => ?_
  rw [ht]
  exact Alike.lift (outcomes_eq.2 rfl)

theorem getRaw_alike (template vin : String) (named : List (String × String)) :
    Alike ClientWorld.observed Eq (getRaw template vin named) (getRaw template vin named) :=
  getObject_alike template vin named

theorem additionalDataSets_getRaw (vin : String) :
    ∀ p ∈ additionalDataSets vin, ∃ template named, p.2 = getRaw template vin named := by
  simp only [additionalDataSets, getTripData, List.forall_mem_cons, List.not_mem_nil, false_implies,
    implies_true, and_true]
  and_intros <;> exact ⟨_, _, rfl⟩

/-- The vehicle, the client and the outside world as an observer sees them. -/
def CarWorld.observed (w : CarWorld) : CarWorld := ⟨w.client.observed, w.car, w.outside.observed⟩

theorem CarWorld.observed_eq_iff {w₁ w₂ : CarWorld} :
    w₁.observed = w₂.observed ↔ w₁.client.observed = w₂.client.observed ∧ w₁.car = w₂.car ∧
      w₁.outside.observed = w₂.outside.observed := by
  constructor
  · intro h
    exact ⟨(congrArg CarWorld.client h :), (congrArg CarWorld.car h :), (congrArg CarWorld.outside h :)⟩
  · rintro ⟨hc, hcar, ho⟩
    simp only [CarWorld.observed, hc, hcar, ho]

theorem car_alike : Alike CarWorld.observed Eq car car :=
  Alike.bind Alike.get fun _ _ hw => Alike.pure (CarWorld.observed_eq_iff.1 hw).2.1

theorem viaClient_alike {α : Type} {x₁ x₂ : ClientM α} (h : Alike ClientWorld.observed Eq x₁ x₂) :
    Alike CarWorld.observed Eq (viaClient x₁) (viaClient x₂) := by
  unfold viaClient
  refine Alike.focus (w := ClientWorld.observed) ?_ ?_ h
  · intro w₁ w₂ hw
    obtain ⟨hc, -, ho⟩ := CarWorld.observed_eq_iff.1 hw
    exact ClientWorld.observed_eq_iff.2 ⟨hc, ho⟩
  · intro w₁ w₂ t₁ t₂ hw ht
    obtain ⟨-, hcar, -⟩ := CarWorld.observed_eq_iff.1 hw
    obtain ⟨hc, ho⟩ := ClientWorld.observed_eq_iff.1 ht
    exact CarWorld.observed_eq_iff.2 ⟨hc, hcar, ho⟩

/-- **The additional data sets**, each read or failed, are alike for accounts that differ in
their credentials only. -/
theorem additionalData_alike : Alike CarWorld.observed Eq Car.additionalData Car.additionalData := by
  unfold Car.additionalData
  refine Alike.bind car_alike fun c₁ c₂ (hc : c₁ = c₂) => ?_
  rw [hc]
  refine Alike.bind (Alike.mapM fun p hp => ?_) fun o₁ o₂ (ho : o₁ = o₂) => ?_
  · -- one data set: its outcome, caught
    obtain ⟨template, named, hx⟩ := additionalDataSets_getRaw _ p hp
    obtain ⟨name, x⟩ := p
    dsimp only at hx ⊢
    rw [hx]
    exact Alike.bind (Alike.attempt (viaClient_alike (getRaw_alike template _ named)))
      fun r₁ r₂ hr => Alike.pure (by rw [outcomes_eq.1 hr])
  · -- what is made of the outcomes does not read the state
    rw [ho]
    dsimp only
    split
    · exact Alike.throw
    · exact Alike.pure rfl

/-- The polled vehicle as an observer sees it: the client without its credentials, and the
outside world without the record of requests sent. -/
def PolledCar.observed (w : PolledCar) : PolledCar :=
  { w with client := w.client.observed, outside := w.outside.observed }

theorem PolledCar.observed_eq_iff {w₁ w₂ : PolledCar} :
    w₁.observed = w₂.observed ↔ w₁.client.observed = w₂.client.observed ∧ w₁.car = w₂.car ∧
      w₁.coordinator = w₂.coordinator ∧ w₁.outside.observed = w₂.outside.observed := by
  constructor
  · intro h
    exact ⟨(congrArg PolledCar.client h :), (congrArg PolledCar.car h :),
      (congrArg PolledCar.coordinator h :), (congrArg PolledCar.outside h :)⟩
  · rintro ⟨hc, hcar, hcoord, ho⟩
    simp only [PolledCar.observed, hc, hcar, hcoord, ho]

theorem viaCar_alike {α : Type} {x₁ x₂ : CarM α} (h : Alike CarWorld.observed Eq x₁ x₂) :
    Alike PolledCar.observed Eq (viaCar x₁) (viaCar x₂) := by
  unfold viaCar
  refine Alike.focus (w := CarWorld.observed) ?_ ?_ h
  · intro w₁ w₂ hw
    obtain ⟨hc, hcar, -, ho⟩ := PolledCar.observed_eq_iff.1 hw
    exact CarWorld.observed_eq_iff.2 ⟨hc, hcar, ho⟩
  · intro w₁ w₂ t₁ t₂ hw ht
    obtain ⟨-, -, hcoord, -⟩ := PolledCar.observed_eq_iff.1 hw
    obtain ⟨hc, hcar, ho⟩ := CarWorld.observed_eq_iff.1 ht
    exact PolledCar.observed_eq_iff.2 ⟨hc, hcar, hcoord, ho⟩

/-- The entry as the diagnostics show it: its data redacted. -/
def redactedEntry (e : ConfigEntry) : ConfigEntry := { e with data := redact vehicleSecrets e.data }

/-- **Noninterference of the diagnostics**: entries that look the same once their data is
redacted, and polled vehicles that differ in the account's credentials and in the requests sent
only, give the same diagnostics and leave vehicles that differ in those only. -/
theorem vehicleDiagnostics_alike {e₁ e₂ : ConfigEntry} (he : redactedEntry e₁ = redactedEntry e₂) :
    Alike PolledCar.observed Eq (vehicleDiagnostics e₁) (vehicleDiagnostics e₂) := by
  unfold vehicleDiagnostics
  refine Alike.bind Alike.get fun w₁ w₂ hw => ?_
  obtain ⟨hc, hcar, hcoord, -⟩ := PolledCar.observed_eq_iff.1 hw
  have hregion : w₁.client.config.homeRegionUrl = w₂.client.config.homeRegionUrl :=
    (congrArg (·.config.homeRegionUrl) hc :)
  refine Alike.bind (viaCar_alike additionalData_alike) fun a₁ a₂ (ha : a₁ = a₂) => Alike.pure ?_
  -- every member shown of the entry is a member of the redacted entry
  have hid : e₁.entryId = e₂.entryId := (congrArg ConfigEntry.entryId he :)
  have hversion : e₁.version = e₂.version := (congrArg ConfigEntry.version he :)
  have hdomain : e₁.domain = e₂.domain := (congrArg ConfigEntry.domain he :)
  have htitle : e₁.title = e₂.title := (congrArg ConfigEntry.title he :)
  have hdata : redact vehicleSecrets e₁.data = redact vehicleSecrets e₂.data :=
    (congrArg ConfigEntry.data he :)
  have hoptions : e₁.options = e₂.options := (congrArg ConfigEntry.options he :)
  simp only [ha, hcar, hcoord, hregion, hid, hversion, hdomain, htitle, hdata, hoptions]

/-- Redacting a document with a member written: the member shows as `redactMember` shows it. -/
theorem redact_withMember (keys : List String) (d : Value) (k : String) (v : Value) :
    redact keys (withMember d k v) = withMember (redact keys d) k (redactMember keys k v) := by
  cases d with
  | obj ms => simp only [withMember, redact, redactMembers_put]
  | _ => rfl

/-- The entry with the account's credentials in its data replaced: the user name, the password
and the PIN. -/
def withCredentials (user password spin : String) (e : ConfigEntry) : ConfigEntry :=
  { e with data := withMember (withMember (withMember e.data "username" (.str user))
      "password" (.str password)) "spin" (.str spin) }

/-- The polled vehicle with the credentials of the client's account replaced. -/
def PolledCar.withCredentials (user password spin : String) (w : PolledCar) : PolledCar :=
  { w with client := { w.client with config := { w.client.config with user, password, spin } } }

theorem redactedEntry_withCredentials {user password spin : String} (e : ConfigEntry)
    (hu : user ≠ "") (hp : password ≠ "") (hs : spin ≠ "") :
    redactedEntry (withCredentials user password spin e) =
      { e with data := withMember (withMember (withMember (redact vehicleSecrets e.data) "username"
          (.str redacted)) "password" (.str redacted)) "spin" (.str redacted) } := by
  simp only [redactedEntry, withCredentials, redact_withMember]
  rw [redactMember_hidden (by decide) hu, redactMember_hidden (by decide) hp,
    redactMember_hidden (by decide) hs]

/-- **The diagnostics disclose no credential**: whatever the user name, the password and the PIN
(set in the entry's data and in the client's account), the diagnostics are the same, and so is
what the vehicle and the outside world show afterwards. -/
theorem vehicleDiagnostics_withCredentials (e : ConfigEntry) (w : PolledCar)
    {u₁ p₁ s₁ u₂ p₂ s₂ : String} (hu₁ : u₁ ≠ "") (hp₁ : p₁ ≠ "") (hs₁ : s₁ ≠ "") (hu₂ : u₂ ≠ "")
    (hp₂ : p₂ ≠ "") (hs₂ : s₂ ≠ "") :
    ((vehicleDiagnostics (withCredentials u₁ p₁ s₁ e)).run' (w.withCredentials u₁ p₁ s₁)).1 =
        ((vehicleDiagnostics (withCredentials u₂ p₂ s₂ e)).run' (w.withCredentials u₂ p₂ s₂)).1 ∧
      ((vehicleDiagnostics (withCredentials u₁ p₁ s₁ e)).run' (w.withCredentials u₁ p₁ s₁)).2.observed =
        ((vehicleDiagnostics (withCredentials u₂ p₂ s₂ e)).run' (w.withCredentials u₂ p₂ s₂)).2.observed := by
  have he := (redactedEntry_withCredentials e hu₁ hp₁ hs₁).trans
    (redactedEntry_withCredentials e hu₂ hp₂ hs₂).symm
  -- the accounts differ in their credentials only, which the observer does not see
  have hw : (w.withCredentials u₁ p₁ s₁).observed = (w.withCredentials u₂ p₂ s₂).observed := rfl
  exact (vehicleDiagnostics_alike he).run' hw

/-- What the diagnostics of entry `e` are known to show: its title as it is, its data, the
vehicle and the additional data with every hidden member concealed. -/
def DiagnosticsOf (e : ConfigEntry) (v : Value) : Prop :=
  ((v.field? "config_entry").bind (·.field? "title")) = some e.title ∧
    (∃ d, ((v.field? "config_entry").bind (·.field? "data")) = some d ∧ concealed vehicleSecrets d) ∧
    ∀ k ∈ ["vehicle", "additional_data"], ∃ x, v.field? k = some x ∧ concealed vehicleSecrets x

/-- **What the diagnostics show**: the entry's title as it is, and its data, the vehicle and the
additional data with every hidden member concealed. -/
theorem vehicleDiagnostics_diagnosticsOf {e : ConfigEntry} {w w' : PolledCar} {v : Value}
    (h : (vehicleDiagnostics e).run' w = (.ok v, w')) : DiagnosticsOf e v := by
  unfold vehicleDiagnostics at h
  rw [run'_bind, run'_get] at h
  dsimp only at h
  rw [run'_bind] at h
  rcases ha : (viaCar Car.additionalData).run' w with ⟨_ | a, w₁⟩ <;> rw [ha] at h
  · simp at h
  · simp only [run'_pure, Prod.mk.injEq] at h
    obtain ⟨hv, -⟩ := h
    cases hv
    refine ⟨?_, ⟨redact vehicleSecrets e.data, ?_, concealed_redact _ _⟩, ?_⟩
    · simp [Value.field?, List.lookup_cons]
    · simp [Value.field?, List.lookup_cons]
    · simp [Value.field?, List.lookup_cons, concealed_redact]

/-- **The account step titles an entry with its vehicle**: an entry it creates is titled by the
brand and the vehicle the login found, which is also the entry's `vin`. -/
theorem carUserStep_createEntry {input title data : Value} {fw fw' : FlowWorld Unit PolledCar}
    (h : (carUserStep input).run' fw = (.ok (.createEntry title data), fw')) :
    ∃ vin, ((checkAccount input).run' fw).1 = .ok vin ∧
      title = .str (((input.field? "brand").getD (.str brandAudi)).display ++ " " ++ vin) ∧
      data = withMember input "vin" (.str vin) := by
  unfold carUserStep at h
  split at h
  · simp [userForm] at h
  · rw [run'_bind, run'_attempt] at h
    rcases hc : (checkAccount input).run' fw with ⟨_ | vin, fw₁⟩ <;> rw [hc] at h <;> dsimp only at h
    · -- a failed login answers with a form, or fails
      split at h <;> simp [userForm] at h
    · refine ⟨vin, rfl, ?_⟩
      simp only [run'_bind, chooseUniqueId, run'_modify] at h
      split at h
      · -- the unique id is free or taken: an entry is created only when it is free
        split at h
        · simp at h
        · simp only [run'_pure, Prod.mk.injEq, Except.ok.injEq, FlowResult.createEntry.injEq] at h
          exact ⟨h.1.1.symm, h.1.2.symm⟩
      · simp at h

/-- **What the diagnostics of a vehicle entry disclose.**  No credential: whatever user name,
password and PIN the entry's data and the client's account hold, the diagnostics are the same.
Every member named in `vehicleSecrets`, at any depth of the entry's data, the vehicle and the
additional data, shows nothing of what it held.  The entry's title is shown as it is, and the
account step of the configuration flow titles the entry with the brand and the vehicle
identification number it logged in with. -/
theorem vehicleDiagnostics_disclosure (e : ConfigEntry) (w : PolledCar) (input : Value)
    (fw : FlowWorld Unit PolledCar) :
    (∀ u₁ p₁ s₁ u₂ p₂ s₂ : String, u₁ ≠ "" → p₁ ≠ "" → s₁ ≠ "" → u₂ ≠ "" → p₂ ≠ "" → s₂ ≠ "" →
      ((vehicleDiagnostics (withCredentials u₁ p₁ s₁ e)).run' (w.withCredentials u₁ p₁ s₁)).1 =
          ((vehicleDiagnostics (withCredentials u₂ p₂ s₂ e)).run' (w.withCredentials u₂ p₂ s₂)).1 ∧
        ((vehicleDiagnostics (withCredentials u₁ p₁ s₁ e)).run' (w.withCredentials u₁ p₁ s₁)).2.observed =
          ((vehicleDiagnostics (withCredentials u₂ p₂ s₂ e)).run' (w.withCredentials u₂ p₂ s₂)).2.observed) ∧
    (∀ v w', (vehicleDiagnostics e).run' w = (.ok v, w') → DiagnosticsOf e v) ∧
    (∀ title data fw', (carUserStep input).run' fw = (.ok (.createEntry title data), fw') →
      ∃ vin, ((checkAccount input).run' fw).1 = .ok vin ∧
        title = .str (((input.field? "brand").getD (.str brandAudi)).display ++ " " ++ vin) ∧
        data = withMember input "vin" (.str vin)) :=
  ⟨fun _ _ _ _ _ _ hu₁ hp₁ hs₁ hu₂ hp₂ hs₂ =>
      vehicleDiagnostics_withCredentials e w hu₁ hp₁ hs₁ hu₂ hp₂ hs₂,
    fun _ _ h => vehicleDiagnostics_diagnosticsOf h,
    fun _ _ _ h => carUserStep_createEntry h⟩

end Vehicle

end ConnectedHome
