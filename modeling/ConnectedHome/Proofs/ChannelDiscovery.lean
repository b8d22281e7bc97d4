import Mathlib.Logic.Relation
import ConnectedHome.Proofs.Triples
import ConnectedHome.Proofs.GuardedActions
import ConnectedHome.Proofs.ResponseText
import ConnectedHome.Proofs.AddressRouting
import ConnectedHome.Proofs.StatusAggregate
import ConnectedHome.Vehicle.Car
import ConnectedHome.Proofs.ReadFaults
/-!
# ChannelDiscovery — which channels a vehicle holds values for

A vehicle's channels are discovered once, from the first status report its initialization reads
(`Car.initialize`); every status report after that only sets values, and only of the discovered
channels (`applyStatus`, through `processReport`).  An initialization that fails is tried again by
the next update, and each attempt that gets as far as the status report discovers the channels
afresh; the values are never cleared.

A status report is the answer to one request, sent to the status address of the vehicle
(`statusAddress`).  That address reads the account's brand and country only, which an
initialization leaves alone while it fills in the vehicle, the home region and the user
(`statusAddress_congr`); and a request only spends the routes of the network
(`Network.AnswersFrom`).  So the report an initialization discovers from was an answer the network
held to the status request when the update began.

- `Car.update_of_initialized`: an update of an initialized vehicle keeps it initialized, keeps its
  channels and writes values of those channels only;
- `Car.initialize_triple`: an initialization keeps the channels and values, or replaces the channels
  by those of a report the network held as an answer to the status request, keeping the old
  values;
- `discoveredChannels_law`: along every run of updates, an initialized vehicle stays initialized
  with the same channels; and when every answer to the status request names the same channels,
  every value belongs to a channel of the vehicle, in every state of the run.  Without that, an
  attempt that fails after its status report was applied leaves values that a later discovery
  with fewer channels does not have.
-/
namespace ConnectedHome

open Exec Http

/-- An invariant of every step of a fold that may fail holds of its result. -/
theorem foldlM_except_inv {α β : Type} {f : β → α → Except Fault β} (I : β → Prop)
    (hf : ∀ b a b', I b → f b a = .ok b' → I b') :
    ∀ (l : List α) (b res : β), I b → l.foldlM f b = .ok res → I res
  | [], b, res, hb, h => by
    cases h
    exact hb
  | a :: l, b, res, hb, h => by
    rw [List.foldlM_cons] at h
    obtain ⟨b', hs, h⟩ := bind_eq_ok.1 h
    exact foldlM_except_inv I hf l b' res (hf b a b' hb hs) h

namespace Http

/-- **What is left of a network's answers**: every route of `n` answers as some route of `n0`
does, and accepts no request that route did not.  A network after requests is one of these: a
request only spends a route. -/
def Network.AnswersFrom (n0 n : Network) : Prop :=
  ∀ r ∈ n.routes, ∃ r0 ∈ n0.routes, r.outcome = r0.outcome ∧
    ∀ m u, r.accepts m u = true → r0.accepts m u = true

/-- Whether a route of the network takes the request `method url` and answers it with body `b`. -/
def Network.AnswersAt (n : Network) (method url b : String) : Prop :=
  ∃ r ∈ n.routes, r.accepts method url = true ∧ ∃ s reason, r.outcome = .answered s b reason

theorem Network.AnswersFrom.refl (n : Network) : n.AnswersFrom n := fun r hr => ⟨r, hr, rfl, fun _ _ h => h⟩

theorem Network.AnswersFrom.trans {n0 n1 n2 : Network} (h1 : n0.AnswersFrom n1) (h2 : n1.AnswersFrom n2) :
    n0.AnswersFrom n2 := by
  intro r hr
  obtain ⟨r1, hr1, he1, ha1⟩ := h2 r hr
  obtain ⟨r0, hr0, he0, ha0⟩ := h1 r1 hr1
  exact ⟨r0, hr0, he1.trans he0, fun m u h => ha0 m u (ha1 m u h)⟩

theorem Network.AnswersFrom.send (n : Network) (req : HttpRequest) : n.AnswersFrom (n.send req).2 :=
  takeRoute_outcomes req.method req.url n.routes

theorem Network.AnswersFrom.answersAt {n0 n : Network} {method url b : String} (h : n0.AnswersFrom n)
    (hb : n.AnswersAt method url b) : n0.AnswersAt method url b := by
  obtain ⟨r, hr, hacc, s, reason, ho⟩ := hb
  obtain ⟨r0, hr0, he, ha⟩ := h r hr
  exact ⟨r0, hr0, ha method url hacc, s, reason, he ▸ ho⟩

end Http

namespace Vehicle

/-! ## The status request -/

/-- The pieces of the status address's template. -/
def statusPieces : List Text.Piece :=
  underBrand "bs/vsr/v1/" [.text "/vehicles/", .field "vin", .text "/status"]

/-- The address of the status report of vehicle `vin` under account `a`. -/
def statusAddress (a : AccountConfig) (vin : String) : Except Fault String :=
  a.brandUrl vehicleStatusUri vin [] []

/-- The status address, filled in piece by piece. -/
theorem statusAddress_eq (a : AccountConfig) (vin : String) :
    statusAddress a vin =
      let path := Text.Template.fill (a.fieldText vin []) statusPieces
      if vehicleStatusUri.contains "://" || path.contains "://" then .ok path
      else (· ++ "/" ++ path) <$> a.baseUrl := by
  have hsource : Text.Template.source statusPieces = vehicleStatusUri := by decide
  have hnames : ∀ n ∈ Text.Template.fields statusPieces, n ∈ templateNames := by decide
  have h := AccountConfig.brandUrl_pieces a statusPieces vin [] (by decide) (by simp [FreshNames])
    fun n hn => .inl (hnames n hn)
  rw [hsource] at h
  exact h

/-- **The status address reads the account's brand and country only**: not its vehicle, home region
or user. -/
theorem statusAddress_congr {a a' : AccountConfig} (vin : String) (hb : a.brand = a'.brand)
    (hc : a.country = a'.country) : statusAddress a vin = statusAddress a' vin := by
  have hfill : Text.Template.fill (a.fieldText vin []) statusPieces =
      Text.Template.fill (a'.fieldText vin []) statusPieces := by
    simp [Text.Template.fill, statusPieces, underBrand, Text.Piece.fill, AccountConfig.fieldText, hb, hc]
  have hbase : a.baseUrl = a'.baseUrl := by
    simp only [AccountConfig.baseUrl, hb]
  rw [statusAddress_eq, statusAddress_eq, hfill, hbase]

/-- Whether the network answers the status request of vehicle `vin` under account `a` with body
`b`. -/
def AnswersStatus (n : Network) (a : AccountConfig) (vin b : String) : Prop :=
  ∃ url, statusAddress a vin = .ok url ∧ n.AnswersAt "GET" url b

/-- An answer to the status request is one under every account of the same brand and country, and
of every network whose routes were only spent since. -/
theorem AnswersStatus.within {n0 n : Network} {a0 a : AccountConfig} {vin b : String}
    (h : AnswersStatus n a vin b) (hn : n0.AnswersFrom n) (hb : a.brand = a0.brand)
    (hc : a.country = a0.country) : AnswersStatus n0 a0 vin b := by
  obtain ⟨url, hurl, hat⟩ := h
  exact ⟨url, (statusAddress_congr vin hb hc).symm.trans hurl, hn.answersAt hat⟩

/-! ## The account and the network's answers along the client's computations -/

/-- **`x` keeps the account and leaves only answers the network held before it**, from every
world. -/
def KeepsAnswers {α : Type} (x : ClientM α) : Prop :=
  ∀ w : ClientWorld, (x.run' w).2.client.config = w.client.config ∧
    w.outside.network.AnswersFrom (x.run' w).2.outside.network

namespace KeepsAnswers

variable {α β : Type}

theorem bind {x : ClientM α} {k : α → ClientM β} (hx : KeepsAnswers x) (hk : ∀ a, KeepsAnswers (k a)) :
    KeepsAnswers (x >>= k) := by
  intro w
  obtain ⟨hc1, hn1⟩ := hx w
  rw [run'_bind]
  rcases hr : x.run' w with ⟨_ | a, w1⟩ <;> rw [hr] at hc1 hn1
  · exact ⟨hc1, hn1⟩
  · obtain ⟨hc2, hn2⟩ := hk a w1
    exact ⟨hc2.trans hc1, hn1.trans hn2⟩

/-- A computation that keeps the account and leaves the network as it was, or sends one request on
it. -/
theorem of_send {x : ClientM α}
    (h : ∀ w, (x.run' w).2.client.config = w.client.config ∧
      ((x.run' w).2.outside.network = w.outside.network ∨
        ∃ req, (x.run' w).2.outside.network = (w.outside.network.send req).2)) : KeepsAnswers x := by
  intro w
  obtain ⟨hc, hn⟩ := h w
  refine ⟨hc, ?_⟩
  rcases hn with hn | ⟨req, hn⟩ <;> rw [hn]
  · exact Network.AnswersFrom.refl _
  · exact Network.AnswersFrom.send _ _

theorem pure {a : α} : KeepsAnswers (Pure.pure a : ClientM α) := of_send fun _ => ⟨rfl, .inl rfl⟩

theorem lift {r : Except Fault α} : KeepsAnswers (Exec.lift r : ClientM α) := of_send fun _ => ⟨rfl, .inl rfl⟩

theorem request (r : ServiceRequest) : KeepsAnswers (Vehicle.request r) := by
  refine of_send fun w => ?_
  rcases request_world r w with hw | ⟨url, -, hw⟩ <;> rw [hw]
  · exact ⟨rfl, .inl rfl⟩
  · exact ⟨rfl, .inr ⟨_, rfl⟩⟩

theorem issueToken {r : ServiceRequest} {present : IssuedToken → Value}
    {store : VehicleClient → HeldToken → VehicleClient} {refusal : String}
    (hstore : ∀ c held, (store c held).config = c.config) :
    KeepsAnswers (Vehicle.issueToken r present store refusal) := by
  refine of_send fun w => ?_
  rcases hr : (Vehicle.issueToken r present store refusal).run' w with ⟨_ | held, w'⟩
  · obtain ⟨-, rfl | ⟨url, -, rfl⟩⟩ := issueToken_error_inv hr
    · exact ⟨rfl, .inl rfl⟩
    · exact ⟨rfl, .inr ⟨_, rfl⟩⟩
  · obtain ⟨url, -, -, -, -, -, -, -, -, -, rfl⟩ := issueToken_ok_inv hr
    exact ⟨hstore _ _, .inr ⟨_, rfl⟩⟩

theorem renewExpired {held : VehicleClient → HeldToken} {renew : AccountConfig → ClientM HeldToken}
    (h : ∀ a, KeepsAnswers (renew a)) : KeepsAnswers (Vehicle.renewExpired held renew) := by
  intro w
  rw [renewExpired_run']
  split
  · exact ⟨rfl, Network.AnswersFrom.refl _⟩
  · exact h _ w
  · exact ⟨rfl, Network.AnswersFrom.refl _⟩

theorem createAccessToken : KeepsAnswers createAccessToken := renewExpired fun _ => issueToken fun _ _ => rfl

theorem createIdentityToken : KeepsAnswers createIdentityToken := renewExpired fun _ => issueToken fun _ _ => rfl

theorem createSecurityToken : KeepsAnswers createSecurityToken :=
  renewExpired fun _ => bind createIdentityToken fun _ => issueToken fun _ _ => rfl

theorem appHeaders (actionToken : String) : KeepsAnswers (Vehicle.appHeaders actionToken) :=
  bind createAccessToken fun _ => pure

theorem homeRegionHeaders : KeepsAnswers Vehicle.homeRegionHeaders :=
  bind createSecurityToken fun _ => pure

theorem getObject (template vin : String) (named : List (String × String)) :
    KeepsAnswers (Vehicle.getObject template vin named) :=
  bind (appHeaders _) fun _ => bind (request _) fun _ => lift

theorem getVehicleStatus (vin : String) : KeepsAnswers (Vehicle.getVehicleStatus vin) :=
  bind (getObject _ _ _) fun _ => lift

theorem getVehicleDetails (vin : String) : KeepsAnswers (Vehicle.getVehicleDetails vin) :=
  bind (getObject _ _ _) fun _ => lift

theorem getHomeRegionUrl (vin : String) : KeepsAnswers (Vehicle.getHomeRegionUrl vin) :=
  bind (getObject _ _ _) fun _ => bind lift fun _ => pure

theorem getServices (vin : String) : KeepsAnswers (Vehicle.getServices vin) :=
  bind homeRegionHeaders fun _ => bind (request _) fun _ => lift

end KeepsAnswers

/-- **A status report the client reads answered the status request**: a route of the network took
the request for the vehicle's status address under the client's account, and its body reads as the
report. -/
theorem getVehicleStatus_answered {vin : String} {w w' : ClientWorld} {sr : StatusReport}
    (h : (getVehicleStatus vin).run' w = (.ok sr, w')) :
    ∃ b, AnswersStatus w.outside.network w.client.config vin b ∧
      (parseObject (cleanResponse b) >>= StatusReport.read) = .ok sr := by
  simp only [getVehicleStatus, getObject, run'_bind, run'_lift] at h
  rcases h1 : (appHeaders "").run' w with ⟨_ | hs, w1⟩ <;> rw [h1] at h <;> dsimp only at h
  · cases h
  rcases h2 : (request { method := "GET", template := vehicleStatusUri, headers := hs, vin, named := [] }).run' w1
    with ⟨_ | text, w2⟩ <;> rw [h2] at h <;> dsimp only at h
  · cases h
  obtain ⟨url, s, b, reason, -, hurl, hans, rfl, -⟩ := request_ok_inv h2
  obtain ⟨r, hr, hacc, ho⟩ := Network.send_answered hans
  -- the headers only asked for a token: the account is the one the read started with
  obtain ⟨hc1, hn1⟩ := KeepsAnswers.appHeaders "" w
  rw [h1] at hc1 hn1
  rw [hc1] at hurl
  refine ⟨b, ⟨url, hurl, hn1.answersAt ⟨r, hr, hacc, s, reason, ho⟩⟩, ?_⟩
  cases hp : parseObject (cleanResponse b) with
  | error f => rw [hp] at h; cases h
  | ok doc =>
    rw [hp] at h
    exact (Prod.mk.inj h).1

/-! ## What a status report writes -/

/-- Writing a channel value adds its key at most. -/
theorem ChannelValues.mem_keys_put {vs : ChannelValues} {k k' : String} {v : Value}
    (h : k' ∈ (vs.put k v).map (·.1)) : k' ∈ vs.map (·.1) ∨ k' = k := by
  unfold ChannelValues.put Members.put at h
  split at h
  · -- written in place: the keys stay as they were
    obtain ⟨⟨a, b⟩, hab, rfl⟩ := List.mem_map.1 h
    obtain ⟨⟨a', b'⟩, hab', he⟩ := List.mem_map.1 hab
    by_cases ha : a' = k
    · subst ha
      simp only [beq_self_eq_true, if_true, Prod.mk.injEq] at he
      exact .inr he.1.symm
    · simp only [beq_iff_eq, ha, if_false, Prod.mk.injEq] at he
      obtain ⟨rfl, rfl⟩ := he
      exact .inl (List.mem_map.2 ⟨_, hab', rfl⟩)
  · simp only [List.map_append, List.map_cons, List.map_nil, List.mem_append, List.mem_singleton] at h
    exact h

/-- Writing channel values one after another adds their keys at most. -/
theorem ChannelValues.mem_keys_foldl_put {k : String} :
    ∀ (us vs : ChannelValues), k ∈ (us.foldl (fun vs (k, v) => vs.put k v) vs).map (·.1) →
      k ∈ vs.map (·.1) ∨ k ∈ us.map (·.1)
  | [], vs, h => .inl h
  | (k', v) :: us, vs, h => by
    rw [List.foldl_cons] at h
    rcases ChannelValues.mem_keys_foldl_put us _ h with h | h
    · rcases ChannelValues.mem_keys_put h with h | rfl
      · exact .inl h
      · exact .inr (List.mem_cons_self ..)
    · exact .inr (List.mem_cons_of_mem _ h)

/-- **Filtered by a list of channel keys, a report has values of those keys only.** -/
theorem processReport_names {r : StatusReport} {t : ChannelTable} {ks : List String} {u : StatusUpdate}
    (h : processReport r t (some ks) = .ok u) : ∀ k ∈ u.values.map (·.1), k ∈ ks := by
  unfold processReport at h
  refine foldlM_except_inv (fun u : StatusUpdate => ∀ k ∈ u.values.map (·.1), k ∈ ks) ?_ r.fields {} u
    (fun k hk => by cases hk) h
  -- one field: a value is written only under a key of `ks`
  rintro u ⟨_, f⟩ u' hu hstep
  simp only at hstep
  split at hstep
  · cases hstep
    exact hu
  rename_i c _
  split at hstep
  · cases hstep
    exact hu
  simp only [List.contains_iff_mem] at hstep
  -- a value is written when its key is kept; the aggregate that follows names no key
  by_cases hkeep : c.key ∈ ks
  · simp only [hkeep, if_true, pure_bind] at hstep
    obtain ⟨v, -, hstep⟩ := bind_eq_ok.1 hstep
    obtain ⟨agg, -, hstep⟩ := bind_eq_ok.1 hstep
    cases hstep
    intro k hk
    rcases ChannelValues.mem_keys_put hk with hk | rfl
    · exact hu k hk
    · exact hkeep
  · simp only [hkeep, if_false, pure_bind] at hstep
    obtain ⟨agg, -, hstep⟩ := bind_eq_ok.1 hstep
    cases hstep
    exact hu

/-! ## What a computation does to the vehicle -/

/-- **Values grow only by channels the vehicle has**: `c` is the vehicle `c0` with its channels and
initialization, and has a value only for a key `c0` has a value or a channel for. -/
structure Car.Grows (c0 c : Car) : Prop where
  channels : c.channels = c0.channels
  initialized : c.initialized = c0.initialized
  vin : c.vin = c0.vin
  values : ∀ k ∈ c.values.map (·.1), k ∈ c0.values.map (·.1) ∨ k ∈ c0.channels.map (·.1)

theorem Car.Grows.refl (c : Car) : c.Grows c := ⟨rfl, rfl, rfl, fun _ h => .inl h⟩

theorem Car.Grows.trans {c0 c1 c2 : Car} (h1 : c0.Grows c1) (h2 : c1.Grows c2) : c0.Grows c2 := by
  obtain ⟨hc1, hi1, hn1, hv1⟩ := h1
  obtain ⟨hc2, hi2, hn2, hv2⟩ := h2
  refine ⟨hc2.trans hc1, hi2.trans hi1, hn2.trans hn1, fun k hk => ?_⟩
  rcases hv2 k hk with hk | hk
  · exact hv1 k hk
  · rw [hc1] at hk
    exact .inr hk

/-- A computation that only grows the vehicle's values, from every vehicle. -/
def GrowsStep {α : Type} (x : CarM α) : Prop := ∀ c0 : Car, Keeps (fun w => c0.Grows w.car) x

namespace GrowsStep

variable {α β : Type}

theorem bind {x : CarM α} {k : α → CarM β} (hx : GrowsStep x) (hk : ∀ a, GrowsStep (k a)) :
    GrowsStep (x >>= k) :=
  fun c0 => Keeps.bind (hx c0) fun a => hk a c0

/-- A change of the vehicle that keeps its channels, values, initialization and identity. -/
theorem modifyCar {f : Car → Car} (hc : ∀ c, (f c).channels = c.channels) (hv : ∀ c, (f c).values = c.values)
    (hi : ∀ c, (f c).initialized = c.initialized) (hn : ∀ c, (f c).vin = c.vin) :
    GrowsStep (Vehicle.modifyCar f) := by
  intro c0
  refine Keeps.modify fun w hw => ?_
  obtain ⟨hc0, hi0, hn0, hv0⟩ := hw
  exact ⟨(hc _).trans hc0, (hi _).trans hi0, (hn _).trans hn0, fun k hk => hv0 k (by rw [← hv w.car]; exact hk)⟩

theorem pure {a : α} : GrowsStep (Pure.pure a : CarM α) := fun _ => Keeps.pure

theorem throw {f : Fault} : GrowsStep (MonadExcept.throw f : CarM α) := fun _ => Keeps.throw

theorem lift {r : Except Fault α} : GrowsStep (Exec.lift r : CarM α) := fun _ => Keeps.lift

theorem attempt {x : CarM α} (h : GrowsStep x) : GrowsStep (Exec.attempt x) := fun c0 => Keeps.attempt (h c0)

theorem car : GrowsStep Vehicle.car := fun _ => Keeps.bind Keeps.get fun _ => Keeps.pure

/-- A computation of the client leaves the vehicle as it is. -/
theorem viaClient (x : ClientM α) : GrowsStep (Vehicle.viaClient x) :=
  fun _ => Triple.focus fun _ hw => by split <;> exact hw

/-- A computation that grows the values of whatever vehicle it starts from. -/
theorem of_run' {x : CarM α} (h : ∀ w : CarWorld, w.car.Grows (x.run' w).2.car) : GrowsStep x := by
  intro c0 w hw
  have h1 := h w
  rcases hr : x.run' w with ⟨_ | a, w'⟩ <;> rw [hr] at h1 <;> exact hw.trans h1

/-- **What is stable under growing values, a grows step keeps.** -/
theorem keeps {x : CarM α} (hx : GrowsStep x) {I : Car → Prop} (hI : ∀ c c', I c → c.Grows c' → I c') :
    Keeps (fun w => I w.car) x := by
  intro w hw
  have h1 := hx w.car w (Car.Grows.refl w.car)
  rcases hr : x.run' w with ⟨_ | a, w'⟩ <;> rw [hr] at h1 <;> exact hI _ _ hw h1

end GrowsStep

theorem applyStatus_run' (r : StatusReport) (w : CarWorld) :
    (applyStatus r).run' w =
      match processReport r ChannelTable.builtIn (some (w.car.channels.map (·.1))) with
      | .error f => (.error f, w)
      | .ok u => (.ok (), { w with car := { w.car with
          values := u.values.foldl (fun vs (k, v) => vs.put k v) w.car.values, aggregate := u.aggregate,
          controls := { w.car.controls with lock := .bool u.aggregate.vehicleLocked } } }) := by
  simp only [applyStatus, car, modifyCar, run'_bind, run'_get, run'_pure, run'_lift]
  cases processReport r ChannelTable.builtIn (some (w.car.channels.map (·.1))) <;> rfl

/-- **A status report grows the values by channels the vehicle has.** -/
theorem applyStatus_grows (r : StatusReport) : GrowsStep (applyStatus r) := by
  refine GrowsStep.of_run' fun w => ?_
  rw [applyStatus_run']
  cases hu : processReport r ChannelTable.builtIn (some (w.car.channels.map (·.1))) with
  | error f => exact Car.Grows.refl w.car
  | ok u =>
    refine ⟨rfl, rfl, rfl, fun k hk => ?_⟩
    rcases ChannelValues.mem_keys_foldl_put _ _ hk with hk | hk
    · exact .inl hk
    · exact .inr (processReport_names hu k hk)

/-- A change of the location only. -/
theorem GrowsStep.modifyLocation {f : Car → Location} :
    GrowsStep (Vehicle.modifyCar fun c : Car => { c with location := f c }) :=
  GrowsStep.modifyCar (fun _ => rfl) (fun _ => rfl) (fun _ => rfl) (fun _ => rfl)

/-- **Reading the location changes nothing but the location.** -/
theorem updateLocation_grows : GrowsStep updateLocation := by
  unfold updateLocation
  refine GrowsStep.bind GrowsStep.car fun c => GrowsStep.bind (GrowsStep.attempt ?_) fun r => ?_
  · -- the two reads of a position, each followed by its write
    refine GrowsStep.bind (GrowsStep.viaClient _) fun _ => GrowsStep.bind GrowsStep.lift fun _ => ?_
    refine GrowsStep.bind GrowsStep.modifyLocation fun _ => GrowsStep.bind (GrowsStep.viaClient _) fun _ => ?_
    exact GrowsStep.bind GrowsStep.lift fun _ => GrowsStep.modifyLocation
  · -- a failure clears the location and is passed on unless the position is unavailable
    rcases r with f | ⟨⟩
    · dsimp only
      split
      · refine GrowsStep.bind GrowsStep.modifyLocation fun _ => ?_
        split
        · exact GrowsStep.throw
        · exact GrowsStep.pure
      · exact GrowsStep.throw
    · exact GrowsStep.pure

/-! ## One update -/

theorem run'_car (w : CarWorld) : car.run' w = (.ok w.car, w) := rfl

/-- **An update of an initialized vehicle** keeps it initialized, keeps its channels and writes
values of those channels only. -/
theorem Car.update_of_initialized (w : CarWorld) (h : w.car.initialized = true) :
    w.car.Grows (Car.update.run' w).2.car := by
  have hstep : GrowsStep (do
      let status ← viaClient (getVehicleStatus (← car).vin)
      applyStatus status
      updateLocation) :=
    GrowsStep.bind GrowsStep.car fun _ => GrowsStep.bind (GrowsStep.viaClient _) fun r =>
      GrowsStep.bind (applyStatus_grows r) fun _ => updateLocation_grows
  have hrun : Car.update.run' w = (do
      let status ← viaClient (getVehicleStatus (← car).vin)
      applyStatus status
      updateLocation).run' w := by
    rw [Car.update, run'_bind, run'_car]
    simp only [h, Bool.not_true, Bool.false_eq_true, if_false]
  rw [hrun]
  exact Keeps.run' (hstep w.car) (Car.Grows.refl w.car)

/-- An update of a vehicle that is not initialized is its initialization. -/
theorem Car.update_of_uninitialized (w : CarWorld) (h : w.car.initialized = false) :
    Car.update.run' w = Car.initialize.run' w := by
  rw [Car.update, run'_bind, run'_car]
  simp only [h, Bool.not_false, if_true]

/-- **An initialization before its discovery**: the vehicle keeps the channels, values and identity
of `c0`, the account the brand and country of `a0`, and the network answers as `n0` did. -/
structure Framed (c0 : Car) (a0 : AccountConfig) (n0 : Network) (w : CarWorld) : Prop where
  channels : w.car.channels = c0.channels
  values : w.car.values = c0.values
  vin : w.car.vin = c0.vin
  brand : w.client.config.brand = a0.brand
  country : w.client.config.country = a0.country
  answers : n0.AnswersFrom w.outside.network

/-- A computation of the client keeps the frame when it keeps the account and only spends routes. -/
theorem Framed.client {c0 : Car} {a0 : AccountConfig} {n0 : Network} {w : CarWorld} (hw : Framed c0 a0 n0 w)
    {cw : ClientWorld} (hc : cw.client.config = w.client.config)
    (hn : w.outside.network.AnswersFrom cw.outside.network) :
    Framed c0 a0 n0 { w with client := cw.client, outside := cw.outside } :=
  ⟨hw.channels, hw.values, hw.vin, hc ▸ hw.brand, hc ▸ hw.country, hw.answers.trans hn⟩

/-- **Channels discovered afresh**: `c` is the vehicle `c0`, its channels are those of a status
report that `n0` held as an answer to the status request of that vehicle under an account of
`a0`'s brand and country, and its values are those of `c0` or of its channels. -/
structure Car.Rediscovered (c : Car) (a0 : AccountConfig) (n0 : Network) (c0 : Car) : Prop where
  vin : c.vin = c0.vin
  found : ∃ b sr, AnswersStatus n0 a0 c0.vin b ∧ (parseObject (cleanResponse b) >>= StatusReport.read) = .ok sr ∧
    c.channels = discoverChannels sr ChannelTable.builtIn
  values : ∀ k ∈ c.values.map (·.1), k ∈ c0.values.map (·.1) ∨ k ∈ c.channels.map (·.1)

theorem Car.Rediscovered.grows {a0 : AccountConfig} {n0 : Network} {c0 c c' : Car} (h : c.Rediscovered a0 n0 c0)
    (hg : c.Grows c') : c'.Rediscovered a0 n0 c0 := by
  obtain ⟨hn, ⟨b, sr, hb, hsr, hch⟩, hv⟩ := h
  obtain ⟨hc, -, hn', hv'⟩ := hg
  refine ⟨hn'.trans hn, ⟨b, sr, hb, hsr, hc.trans hch⟩, fun k hk => ?_⟩
  rw [hc]
  rcases hv' k hk with hk | hk
  · exact hv k hk
  · exact .inr hk

section Framed

variable {c0 : Car} {a0 : AccountConfig} {n0 : Network} {α : Type}

theorem framed_viaClient {x : ClientM α} (hx : KeepsAnswers x) : Keeps (Framed c0 a0 n0) (viaClient x) := by
  refine Triple.focus fun w hw => ?_
  obtain ⟨hc, hn⟩ := hx ⟨w.client, w.outside⟩
  rcases hr : x.run' ⟨w.client, w.outside⟩ with ⟨_ | a, cw⟩ <;> rw [hr] at hc hn <;> exact hw.client hc hn

theorem framed_modifyConfig {f : AccountConfig → AccountConfig} (hb : ∀ a, (f a).brand = a.brand)
    (hc : ∀ a, (f a).country = a.country) : Keeps (Framed c0 a0 n0) (modifyConfig f) :=
  Keeps.modify fun _ hw =>
    ⟨hw.channels, hw.values, hw.vin, (hb _).trans hw.brand, (hc _).trans hw.country, hw.answers⟩

theorem framed_modifyCar {f : Car → Car} (hc : ∀ c, (f c).channels = c.channels) (hv : ∀ c, (f c).values = c.values)
    (hn : ∀ c, (f c).vin = c.vin) : Keeps (Framed c0 a0 n0) (modifyCar f) :=
  Keeps.modify fun w hw => ⟨(hc w.car).trans hw.channels, (hv w.car).trans hw.values, (hn w.car).trans hw.vin,
    hw.brand, hw.country, hw.answers⟩

/-- Reading the vehicle yields the vehicle `c0`. -/
theorem framed_car : Triple (Framed c0 a0 n0) car (fun c w => c.vin = c0.vin ∧ Framed c0 a0 n0 w)
    (fun _ w => Framed c0 a0 n0 w ∨ w.car.Rediscovered a0 n0 c0) := by
  intro w hw
  rw [run'_car]
  exact ⟨hw.vin, hw⟩

/-- A step of the initialization before the discovery, with its failures. -/
theorem framed_step {x : CarM α} (hx : Keeps (Framed c0 a0 n0) x) :
    Triple (Framed c0 a0 n0) x (fun _ => Framed c0 a0 n0) (fun _ w => Framed c0 a0 n0 w ∨ w.car.Rediscovered a0 n0 c0) :=
  Triple.conseq hx (fun _ h => h) (fun _ _ h => h) (fun _ _ h => .inl h)

/-- A step of the initialization after the discovery. -/
theorem rediscovered_step {x : CarM α} (hx : GrowsStep x) :
    Triple (fun w => w.car.Rediscovered a0 n0 c0) x (fun _ w => w.car.Rediscovered a0 n0 c0)
      (fun _ w => Framed c0 a0 n0 w ∨ w.car.Rediscovered a0 n0 c0) :=
  Triple.conseq (hx.keeps fun _ _ (h : Car.Rediscovered _ a0 n0 c0) hg => h.grows hg) (fun _ h => h) (fun _ _ h => h)
    (fun _ _ h => .inr h)

/-- **The discovery**: the status report is read, its channels replace the vehicle's, then it is
applied and the location is read. -/
theorem discovery_triple :
    Triple (Framed c0 a0 n0)
      (do
        let status ← viaClient (getVehicleStatus c0.vin)
        modifyCar fun c => { c with channels := discoverChannels status ChannelTable.builtIn }
        applyStatus status
        updateLocation
        modifyCar fun c => { c with initialized := true })
      (fun _ w => w.car.Rediscovered a0 n0 c0) (fun _ w => Framed c0 a0 n0 w ∨ w.car.Rediscovered a0 n0 c0) := by
  refine Triple.bind (Q := fun sr w => Framed c0 a0 n0 w ∧ ∃ b, AnswersStatus n0 a0 c0.vin b ∧
      (parseObject (cleanResponse b) >>= StatusReport.read) = .ok sr) ?_ fun sr => ?_
  · -- the report answered the status request, under an account and in a network that only lost
    -- routes since `n0`
    refine Triple.focus fun w hw => ?_
    obtain ⟨hc, hn⟩ := KeepsAnswers.getVehicleStatus c0.vin ⟨w.client, w.outside⟩
    rcases hr : (getVehicleStatus c0.vin).run' ⟨w.client, w.outside⟩ with ⟨_ | sr, cw⟩ <;> rw [hr] at hc hn
    · exact .inl (hw.client hc hn)
    · obtain ⟨b, hb, hsr⟩ := getVehicleStatus_answered hr
      exact ⟨hw.client hc hn, b, hb.within hw.answers hw.brand hw.country, hsr⟩
  · -- its channels replace the vehicle's; from here on the values only grow
    refine Triple.bind (Q := fun _ w => w.car.Rediscovered a0 n0 c0) (Triple.modify fun w hw => ?_) fun _ =>
      Triple.bind (rediscovered_step (applyStatus_grows sr)) fun _ =>
        Triple.bind (rediscovered_step updateLocation_grows) fun _ =>
          -- marking the vehicle initialized keeps its channels and values
          Triple.modify fun _ hw => ⟨hw.vin, hw.found, hw.values⟩
    obtain ⟨hw, b, hb, hsr⟩ := hw
    exact ⟨hw.vin, ⟨b, sr, hb, hsr, rfl⟩, fun k hk => .inl (hw.values ▸ hk)⟩

/-- **An initialization, unpacked by how far it got**: it keeps the vehicle's channels and values, or
it discovered the channels of a report the network held as an answer to the status request of the
vehicle, keeping the old values; only the second happens when it succeeds. -/
theorem Car.initialize_triple (c0 : Car) (a0 : AccountConfig) (n0 : Network) :
    Triple (Framed c0 a0 n0) Car.initialize (fun _ w => w.car.Rediscovered a0 n0 c0)
      (fun _ w => Framed c0 a0 n0 w ∨ w.car.Rediscovered a0 n0 c0) := by
  unfold Car.initialize
  refine Triple.bind framed_car fun c => Triple.of_fact fun hc => ?_
  -- every request is about the vehicle `c0`; the account changes keep its brand and country
  rw [hc]
  refine Triple.bind (framed_step (framed_modifyConfig (fun _ => rfl) (fun _ => rfl))) fun _ => ?_
  refine Triple.bind (framed_step (framed_viaClient (KeepsAnswers.getHomeRegionUrl _))) fun _ => ?_
  refine Triple.bind (framed_step (framed_modifyConfig (fun _ => rfl) (fun _ => rfl))) fun _ => ?_
  refine Triple.bind (framed_step (framed_viaClient (KeepsAnswers.getServices _))) fun _ => ?_
  refine Triple.bind (framed_step (framed_modifyCar (fun _ => rfl) (fun _ => rfl) (fun _ => rfl))) fun _ => ?_
  refine Triple.bind (framed_step (framed_modifyConfig (fun _ => rfl) (fun _ => rfl))) fun _ => ?_
  refine Triple.bind (framed_step (Keeps.attempt (framed_viaClient (KeepsAnswers.getVehicleDetails _)))) fun r => ?_
  -- the model details when there are any; a refusal of the service is passed over
  rcases r with f | details
  · dsimp only
    split
    · exact discovery_triple
    · exact Triple.bind (Triple.throw fun _ h => .inl h) fun _ => discovery_triple
  · exact Triple.bind (framed_step (framed_modifyCar (fun _ => rfl) (fun _ => rfl) (fun _ => rfl))) fun _ =>
      discovery_triple

end Framed

/-- **The channels a discovery leaves** are those of the report it read, whether or not the rest of
the initialization succeeds. -/
theorem discovery_channels {P : CarWorld → Prop} {vin : String} {sr : StatusReport}
    (h : Triple P (viaClient (getVehicleStatus vin)) (fun s _ => s = sr) (fun _ _ => False)) :
    Triple P
      (do
        let status ← viaClient (getVehicleStatus vin)
        modifyCar fun c => { c with channels := discoverChannels status ChannelTable.builtIn }
        applyStatus status
        updateLocation
        modifyCar fun c => { c with initialized := true })
      (fun _ w => w.car.channels = discoverChannels sr ChannelTable.builtIn)
      (fun _ w => w.car.channels = discoverChannels sr ChannelTable.builtIn) := by
  have hkeeps {α : Type} {x : CarM α} (hx : GrowsStep x) :
      Keeps (fun w => w.car.channels = discoverChannels sr ChannelTable.builtIn) x :=
    hx.keeps fun _ _ h hg => hg.channels.trans h
  refine Triple.bind (Triple.conseq h (fun _ h => h) (fun _ _ h => h) (fun _ _ h => h.elim)) fun s => ?_
  -- the report's channels replace the vehicle's, and what follows only grows its values
  refine Triple.bind (Q := fun _ w => w.car.channels = discoverChannels sr ChannelTable.builtIn)
    (Triple.modify fun _ hs => by subst hs; rfl) fun _ => ?_
  exact Triple.bind (hkeeps (applyStatus_grows s)) fun _ => Triple.bind (hkeeps updateLocation_grows) fun _ =>
    Triple.modify fun _ h => h

/-- What an initialization leaves, whether it succeeds or fails. -/
theorem Car.initialize_outcome (w : CarWorld) :
    Framed w.car w.client.config w.outside.network (Exec.run' Car.initialize w).2 ∨
      (Exec.run' Car.initialize w).2.car.Rediscovered w.client.config w.outside.network w.car := by
  have h1 := Car.initialize_triple w.car w.client.config w.outside.network w
    ⟨rfl, rfl, rfl, rfl, rfl, Network.AnswersFrom.refl _⟩
  rcases hr : Car.initialize.run' w with ⟨_ | _, w'⟩ <;> rw [hr] at h1
  · exact h1
  · exact .inr h1

/-- **An update keeps the vehicle it is about.** -/
theorem Car.update_vin (w : CarWorld) : (Car.update.run' w).2.car.vin = w.car.vin := by
  cases hi : w.car.initialized
  · rw [Car.update_of_uninitialized w hi]
    rcases Car.initialize_outcome w with hf | hr
    · exact hf.vin
    · exact hr.vin
  · exact (Car.update_of_initialized w hi).vin

/-! ## Runs of updates -/

/-- **One update of a vehicle**, with any client, against any outside world that `S` allows for the
client's account and the vehicle. -/
def Car.Updates (S : AccountConfig → Car → Outside → Prop) (c c' : Car) : Prop :=
  ∃ cl o, S cl.config c o ∧ (Car.update.run' ⟨cl, c, o⟩).2.car = c'

/-- **A vehicle whose status reports all name the same channels** `K`: every answer the network
holds to the status request of vehicle `vin` under account `a`, when it reads as a status report,
discovers `K`.  Answers to other requests are not asked about, though they may read as reports
too. -/
def ReportsChannels (K : ChannelMap) (a : AccountConfig) (vin : String) (n : Network) : Prop :=
  ∀ b sr, AnswersStatus n a vin b → (parseObject (cleanResponse b) >>= StatusReport.read) = .ok sr →
    discoverChannels sr ChannelTable.builtIn = K

/-- The vehicle has no channels yet or the channels `K`, and values of its channels only. -/
def ChannelsOf (K : ChannelMap) (c : Car) : Prop :=
  (c.channels = [] ∨ c.channels = K) ∧ ∀ k ∈ c.values.map (·.1), k ∈ c.channels.map (·.1)

theorem channelsOf_ofVin (vin : String) (K : ChannelMap) : ChannelsOf K (Car.ofVin vin) :=
  ⟨.inl rfl, fun _ h => by cases h⟩

/-- **One update keeps the values to the channels**, against a vehicle whose reports all name `K`. -/
theorem Car.update_channelsOf {K : ChannelMap} {w : CarWorld}
    (hK : ReportsChannels K w.client.config w.car.vin w.outside.network) (h : ChannelsOf K w.car) :
    ChannelsOf K (Car.update.run' w).2.car := by
  cases hi : w.car.initialized
  · rw [Car.update_of_uninitialized w hi]
    rcases Car.initialize_outcome w with hf | ⟨-, ⟨b, sr, hb, hsr, hc⟩, hv⟩
    · -- nothing discovered: channels and values as they were
      rw [ChannelsOf, hf.channels, hf.values]
      exact h
    · -- discovered afresh: the channels are `K`, and the old values were of none or of `K`
      rw [hK b sr hb hsr] at hc
      refine ⟨.inr hc, fun k hk => ?_⟩
      rcases hv k hk with hk | hk
      · have hold := h.2 k hk
        rcases h.1 with h0 | h0
        · rw [h0] at hold
          cases hold
        · rw [hc, ← h0]
          exact hold
      · exact hk
  · obtain ⟨hc, -, -, hv⟩ := Car.update_of_initialized w hi
    refine ⟨hc ▸ h.1, fun k hk => ?_⟩
    rw [hc]
    rcases hv k hk with hk | hk
    · exact h.2 k hk
    · exact hk

/-- **Discovered channels stay**: an update of a vehicle with the channels `K`, against a vehicle
whose reports all name `K`, leaves it with the channels `K`. -/
theorem Car.update_channels_stay {K : ChannelMap} {w : CarWorld}
    (hK : ReportsChannels K w.client.config w.car.vin w.outside.network) (h : w.car.channels = K) :
    (Car.update.run' w).2.car.channels = K := by
  cases hi : w.car.initialized
  · rw [Car.update_of_uninitialized w hi]
    rcases Car.initialize_outcome w with hf | ⟨-, ⟨b, sr, hb, hsr, hc⟩, -⟩
    · exact hf.channels.trans h
    · exact hc.trans (hK b sr hb hsr)
  · exact (Car.update_of_initialized w hi).channels.trans h

/-- Along a run of updates, an initialized vehicle stays initialized with the same channels. -/
theorem Car.initialized_run {S : AccountConfig → Car → Outside → Prop} {c c' : Car}
    (h : Relation.ReflTransGen (Car.Updates S) c c') (hi : c.initialized = true) :
    c'.initialized = true ∧ c'.channels = c.channels := by
  induction h with
  | refl => exact ⟨hi, rfl⟩
  | tail _ hstep ih =>
    obtain ⟨cl, o, -, rfl⟩ := hstep
    obtain ⟨hi', hc'⟩ := ih
    obtain ⟨hc, hinit, -, -⟩ := Car.update_of_initialized ⟨cl, _, o⟩ hi'
    exact ⟨hinit.trans hi', hc.trans hc'⟩

/-- Along a run of updates against a vehicle whose reports all name `K`, values stay of channels. -/
theorem Car.channelsOf_run {K : ChannelMap} {c c' : Car}
    (h : Relation.ReflTransGen (Car.Updates fun a c o => ReportsChannels K a c.vin o.network) c c')
    (h0 : ChannelsOf K c) : ChannelsOf K c' := by
  induction h with
  | refl => exact h0
  | tail _ hstep ih =>
    obtain ⟨cl, o, hK, rfl⟩ := hstep
    exact Car.update_channelsOf hK ih

/-- **Channels along runs of updates.**  Against any answers, a vehicle once initialized stays
initialized and keeps its channels.  When every answer to the status request of the vehicle names
the same channels `K`, every value of the vehicle is of one of its channels, in every state of every
run from a vehicle nothing is known about. -/
theorem discoveredChannels_law (vin : String) (K : ChannelMap) :
    (∀ c c', Relation.ReflTransGen (Car.Updates fun _ _ _ => True) c c' → c.initialized = true →
      c'.initialized = true ∧ c'.channels = c.channels) ∧
    (∀ c, Relation.ReflTransGen (Car.Updates fun a c o => ReportsChannels K a c.vin o.network) (Car.ofVin vin) c →
      ∀ k ∈ c.values.map (·.1), k ∈ c.channels.map (·.1)) :=
  ⟨fun _ _ h hi => Car.initialized_run h hi,
    fun _ h => (Car.channelsOf_run h (channelsOf_ofVin vin K)).2⟩

/-! ## A run that discovers channels -/

/-- The status report of vehicle `V` whose left front door is locked, as the service sends it. -/
def lockedDoorText : String :=
  "\x7b\"StoredVehicleDataResponse\":\x7b\"vin\":\"V\",\"vehicleData\":\x7b\"data\":[\x7b\"id\":\"0x030104FFFF\",\"field\":[\x7b\"id\":\"0x0301040001\",\"value\":\"2\"\x7d]\x7d]\x7d\x7d\x7d"

def homeRegionRoute : Route := { pattern := "homeRegion", outcome := .answered 200 "\x7b\x7d" "OK" }

def operationListRoute : Route := { pattern := "operationlist", outcome := .answered 200 "\x7b\x7d" "OK" }

def detailsRoute : Route := { pattern := "carportdata", outcome := .answered 200 "\x7b\x7d" "OK" }

def statusRoute : Route := { pattern := "/status", outcome := .answered 200 lockedDoorText "OK" }

def storedPositionRoute : Route := { pattern := "storedPosition", outcome := .answered 204 "" "No Content" }

/-- A service that knows vehicle `V`, with a route for each of its requests: the home region, the
operation list and the details are empty objects, which would read as status reports without
channels; the status is the report of the locked door; the parking position is not there. -/
def lockedDoorRoutes : List Route :=
  [homeRegionRoute, operationListRoute, detailsRoute, statusRoute, storedPositionRoute]

/-- A client of an Audi account in Germany that holds live access and security tokens. -/
def lockedDoorClient : VehicleClient :=
  { config := { user := "u", password := "p" },
    apiToken := { accessToken := "at", validity := .int 3600, issuedAt := .int 0 },
    securityToken := { accessToken := "st", validity := .int 3600, issuedAt := .int 0 } }

/-- The service at time 1000. -/
def lockedDoorOutside : Outside := { network := { routes := lockedDoorRoutes }, clock := .int 1000 }

/-- The channels of the locked door's report. -/
def lockedDoorChannels : ChannelMap := discoverChannels (frontLockReport "2") ChannelTable.builtIn

/-- A table that defines the lock discovers its one channel from the lock's report. -/
theorem discoverChannels_frontLock {t : ChannelTable} {c : Channel} (hfind : t.find "0x0301040001" = some c)
    (hempty : c.channel.isEmpty = false) : discoverChannels (frontLockReport "2") t = [(c.key, c)] := by
  have hfields : (frontLockReport "2").fields = [("0x030104FFFF", frontLockField "2")] := rfl
  have hid : (frontLockField "2").id = "0x0301040001" := rfl
  simp only [discoverChannels, hfields, List.foldl_cons, List.foldl_nil, hid, hfind, hempty, Bool.not_false,
    List.any_nil, Bool.and_self, if_true, List.nil_append]

theorem lockedDoorChannels_ne_nil : lockedDoorChannels ≠ [] := by
  obtain ⟨c, hfind, -, hchan, -⟩ := frontLock_find
  have hempty : c.channel.isEmpty = false := by
    rw [hchan]
    rfl
  rw [lockedDoorChannels, discoverChannels_frontLock hfind hempty]
  exact List.cons_ne_nil _ _

theorem lockedDoor_baseUrl : lockedDoorClient.config.baseUrl = .ok audiBaseUrl := by
  have hlower : Text.lower brandAudi = "audi" := by
    simp [brandAudi, Text.lower, Text.lowerOf, Text.lowerChars, Text.capitalSigma]
  simp [AccountConfig.baseUrl, lockedDoorClient, hlower]

/-- The addresses of the service's templates under that account, for vehicle `V`. -/
theorem lockedDoor_address {tp : String × List Text.Piece} (htp : tp ∈ serviceTemplates)
    (hnames : ∀ n ∈ Text.Template.fields tp.2, n ∈ templateNames) :
    lockedDoorClient.config.brandUrl tp.1 "V" [] [] =
      let path := Text.Template.fill (lockedDoorClient.config.fieldText "V" []) tp.2
      if tp.1.contains "://" || path.contains "://" then .ok path else .ok (audiBaseUrl ++ "/" ++ path) := by
  have h := AccountConfig.brandUrl_pieces lockedDoorClient.config tp.2 "V" [] (serviceTemplates_plain tp htp)
    (by simp [FreshNames]) fun n hn => .inl (hnames n hn)
  rw [serviceTemplates_pieces tp htp] at h
  rw [h, lockedDoor_baseUrl]
  rfl

theorem lockedDoor_homeRegionAddress :
    lockedDoorClient.config.brandUrl homeRegionUri "V" [] [] =
      .ok "https://mal-1a.prd.ece.vwg-connect.com/api/cs/vds/v1/vehicles/V/homeRegion" := by
  have htp : (homeRegionUri, [.text "https://mal-1a.prd.ece.vwg-connect.com/api/cs/vds/v1/vehicles/", .field "vin",
      .text "/homeRegion"]) ∈ serviceTemplates := by decide
  have hc : homeRegionUri.contains "://" = true := by
    simp only [homeRegionUri, defaultHomeRegion, String.reduceAppend, String.contains_string_iff, String.reduceToList]
    decide
  rw [lockedDoor_address htp (by decide)]
  simp [hc, Text.Template.fill, Text.Piece.fill, AccountConfig.fieldText]

theorem lockedDoor_operationListAddress :
    lockedDoorClient.config.brandUrl operationListUri "V" [] [] =
      .ok "https://mal-1a.prd.ece.vwg-connect.com/api/rolesrights/operationlist/v3/vehicles/V" := by
  have htp : (operationListUri, [.field "home_region", .text "/rolesrights/operationlist/v3/vehicles/",
      .field "vin"]) ∈ serviceTemplates := by decide
  have hc : "https://mal-1a.prd.ece.vwg-connect.com/api/rolesrights/operationlist/v3/vehicles/V".contains "://" = true := by
    simp only [String.contains_string_iff, String.reduceToList]
    decide
  rw [lockedDoor_address htp (by decide)]
  simp [hc, Text.Template.fill, Text.Piece.fill, AccountConfig.fieldText, AccountConfig.homeRegion, lockedDoorClient, defaultHomeRegion]

theorem lockedDoor_detailsAddress :
    lockedDoorClient.config.brandUrl vehicleDetailsUri "V" [] [] =
      .ok "https://msg.audi.de/fs-car/promoter/portfolio/v1/Audi/DE/vehicle/V/carportdata" := by
  have htp : (vehicleDetailsUri, underBrand "promoter/portfolio/v1/" [.text "/vehicle/", .field "vin",
      .text "/carportdata"]) ∈ serviceTemplates := by decide
  have hc1 : vehicleDetailsUri.contains "://" = false := by
    simp only [vehicleDetailsUri, String.contains_string_eq_false_iff, String.reduceToList]
    decide
  have hc2 : "promoter/portfolio/v1/Audi/DE/vehicle/V/carportdata".contains "://" = false := by
    simp only [String.contains_string_eq_false_iff, String.reduceToList]
    decide
  rw [lockedDoor_address htp (by decide)]
  simp [hc1, hc2, Text.Template.fill, Text.Piece.fill, AccountConfig.fieldText, underBrand, lockedDoorClient, brandAudi, audiBaseUrl]

theorem lockedDoor_statusAddress :
    statusAddress lockedDoorClient.config "V" = .ok "https://msg.audi.de/fs-car/bs/vsr/v1/Audi/DE/vehicles/V/status" := by
  have htp : (vehicleStatusUri, statusPieces) ∈ serviceTemplates := by decide
  have hc1 : vehicleStatusUri.contains "://" = false := by
    simp only [vehicleStatusUri, String.contains_string_eq_false_iff, String.reduceToList]
    decide
  have hc2 : "bs/vsr/v1/Audi/DE/vehicles/V/status".contains "://" = false := by
    simp only [String.contains_string_eq_false_iff, String.reduceToList]
    decide
  rw [statusAddress, lockedDoor_address htp (by decide)]
  simp [hc1, hc2, Text.Template.fill, Text.Piece.fill, AccountConfig.fieldText, statusPieces, underBrand, lockedDoorClient, brandAudi, audiBaseUrl]

/-- Which routes take the requests of an update of `V`: each request its own route, the routes
before it passing it by, and no route but the status route the status request. -/
theorem lockedDoor_accepts :
    homeRegionRoute.accepts "GET" "https://mal-1a.prd.ece.vwg-connect.com/api/cs/vds/v1/vehicles/V/homeRegion" = true ∧
    homeRegionRoute.accepts "GET" "https://mal-1a.prd.ece.vwg-connect.com/api/rolesrights/operationlist/v3/vehicles/V" = false ∧
    operationListRoute.accepts "GET" "https://mal-1a.prd.ece.vwg-connect.com/api/rolesrights/operationlist/v3/vehicles/V" = true ∧
    homeRegionRoute.accepts "GET" "https://msg.audi.de/fs-car/promoter/portfolio/v1/Audi/DE/vehicle/V/carportdata" = false ∧
    operationListRoute.accepts "GET" "https://msg.audi.de/fs-car/promoter/portfolio/v1/Audi/DE/vehicle/V/carportdata" = false ∧
    detailsRoute.accepts "GET" "https://msg.audi.de/fs-car/promoter/portfolio/v1/Audi/DE/vehicle/V/carportdata" = true ∧
    homeRegionRoute.accepts "GET" "https://msg.audi.de/fs-car/bs/vsr/v1/Audi/DE/vehicles/V/status" = false ∧
    operationListRoute.accepts "GET" "https://msg.audi.de/fs-car/bs/vsr/v1/Audi/DE/vehicles/V/status" = false ∧
    detailsRoute.accepts "GET" "https://msg.audi.de/fs-car/bs/vsr/v1/Audi/DE/vehicles/V/status" = false ∧
    statusRoute.accepts "GET" "https://msg.audi.de/fs-car/bs/vsr/v1/Audi/DE/vehicles/V/status" = true ∧
    storedPositionRoute.accepts "GET" "https://msg.audi.de/fs-car/bs/vsr/v1/Audi/DE/vehicles/V/status" = false := by
  simp only [homeRegionRoute, operationListRoute, detailsRoute, statusRoute, storedPositionRoute, Route.accepts,
    Option.all_none, Bool.true_and, Bool.and_true, String.reduceToList]
  decide

/-- The texts the service answers with are clean and hold no error report. -/
theorem lockedDoor_texts :
    (cleanResponse lockedDoorText = lockedDoorText ∧ cleanResponse "\x7b\x7d" = "\x7b\x7d") ∧
      (lockedDoorText.contains "\"error\":" = false ∧ lockedDoorText ≠ "") ∧
      (("\x7b\x7d" : String).contains "\"error\":" = false ∧ ("\x7b\x7d" : String) ≠ "") := by
  simp only [cleanResponse_eq, String.contains_string_eq_internal, lockedDoorText]
  decide +kernel

set_option maxRecDepth 20000 in
theorem lockedDoorText_parse : parseObject lockedDoorText = .ok (frontLockDoc "2") := rfl

/-- A world of that service: the client has a session and the live tokens, under an account of the
brand, country and home region of `lockedDoorClient`; the clock reads 1000 and every route is there. -/
structure AtLockedDoor (cw : ClientWorld) : Prop where
  session : cw.client.hasSession = true
  access : cw.client.apiToken = lockedDoorClient.apiToken
  security : cw.client.securityToken = lockedDoorClient.securityToken
  brand : cw.client.config.brand = lockedDoorClient.config.brand
  country : cw.client.config.country = lockedDoorClient.config.country
  region : cw.client.config.homeRegion = lockedDoorClient.config.homeRegion
  clock : cw.outside.clock = lockedDoorOutside.clock
  routes : cw.outside.network.routes = lockedDoorRoutes

theorem AtLockedDoor.brandUrl {cw : ClientWorld} (h : AtLockedDoor cw) :
    cw.client.config.brandUrl = lockedDoorClient.config.brandUrl :=
  AccountConfig.brandUrl_congr h.brand h.country h.region

/-- A world with the client and clock of a world of that service, and all the routes, is one too. -/
theorem AtLockedDoor.of_client {cw cw' : ClientWorld} (h : AtLockedDoor cw) (hcl : cw'.client = cw.client)
    (hclk : cw'.outside.clock = cw.outside.clock) (hrt : cw'.outside.network.routes = lockedDoorRoutes) :
    AtLockedDoor cw' := by
  obtain ⟨hs, ha, hsec, hb, hc, hr, hclk0, -⟩ := h
  exact ⟨hcl ▸ hs, hcl ▸ ha, hcl ▸ hsec, hcl ▸ hb, hcl ▸ hc, hcl ▸ hr, hclk.trans hclk0, hrt⟩

/-- A read of an object answered by its route with a clean text, in a world of that service. -/
theorem AtLockedDoor.getObject {cw : ClientWorld} (h : AtLockedDoor cw) {template url b : String}
    (haddr : lockedDoorClient.config.brandUrl template "V" [] [] = .ok url) {skipped : List Route} {rt : Route}
    {rs : List Route} (hsplit : lockedDoorRoutes = skipped ++ rt :: rs)
    (hskip : ∀ s ∈ skipped, s.accepts "GET" url = false) (hacc : rt.accepts "GET" url = true)
    (hout : rt.outcome = .answered 200 b "OK") (hspend : rt.spend = rt)
    (hc : (cleanResponse b).contains "\"error\":" = false) (hne : cleanResponse b ≠ "") :
    ∃ cw', (getObject template "V").run' cw = (parseObject (cleanResponse b), cw') ∧ AtLockedDoor cw' := by
  have hlive : cw.client.apiToken.expiredAt cw.outside.clock = .ok false := by
    rw [h.access, h.clock]
    rfl
  obtain ⟨cw', hrun, hcl, hclk, hrt⟩ := getObject_answered hlive h.session (by rw [h.brandUrl]; exact haddr)
    (h.routes.trans hsplit) hskip hacc hout hc hne
  rw [hspend, ← hsplit] at hrt
  exact ⟨cw', hrun, h.of_client hcl hclk hrt⟩

/-- The home region of `V`: none is sent, so it is the default one. -/
theorem AtLockedDoor.getHomeRegionUrl {cw : ClientWorld} (h : AtLockedDoor cw) :
    ∃ cw', (getHomeRegionUrl "V").run' cw = (.ok (.str defaultHomeRegion), cw') ∧ AtLockedDoor cw' := by
  obtain ⟨⟨-, hempty⟩, -, herr, hne⟩ := lockedDoor_texts
  have hsplit : lockedDoorRoutes = [] ++ homeRegionRoute :: [operationListRoute, detailsRoute, statusRoute,
      storedPositionRoute] := rfl
  obtain ⟨cw', hrun, hcw'⟩ := h.getObject lockedDoor_homeRegionAddress hsplit (by simp)
    lockedDoor_accepts.1 rfl rfl (by rw [hempty]; exact herr) (by rw [hempty]; exact hne)
  refine ⟨cw', ?_, hcw'⟩
  rw [Vehicle.getHomeRegionUrl, run'_bind, hrun, hempty]
  rfl

/-- The details of `V`: all of them null. -/
theorem AtLockedDoor.getVehicleDetails {cw : ClientWorld} (h : AtLockedDoor cw) :
    ∃ cw', (getVehicleDetails "V").run' cw = (.ok VehicleDetails.empty, cw') ∧ AtLockedDoor cw' := by
  obtain ⟨⟨-, hempty⟩, -, herr, hne⟩ := lockedDoor_texts
  obtain ⟨-, -, -, h1, h2, h3, -⟩ := lockedDoor_accepts
  have hsplit : lockedDoorRoutes = [homeRegionRoute, operationListRoute] ++ detailsRoute ::
      [statusRoute, storedPositionRoute] := rfl
  obtain ⟨cw', hrun, hcw'⟩ := h.getObject lockedDoor_detailsAddress hsplit (by simp [h1, h2]) h3 rfl rfl
    (by rw [hempty]; exact herr) (by rw [hempty]; exact hne)
  refine ⟨cw', ?_, hcw'⟩
  rw [Vehicle.getVehicleDetails, run'_bind_lift, hrun, hempty]
  rfl

/-- The status of `V`: the report of the locked door. -/
theorem AtLockedDoor.getVehicleStatus {cw : ClientWorld} (h : AtLockedDoor cw) :
    ∃ cw', (getVehicleStatus "V").run' cw = (.ok (frontLockReport "2"), cw') ∧ AtLockedDoor cw' := by
  obtain ⟨⟨hclean, -⟩, ⟨herr, hne⟩, -⟩ := lockedDoor_texts
  obtain ⟨-, -, -, -, -, -, h1, h2, h3, h4, -⟩ := lockedDoor_accepts
  have hsplit : lockedDoorRoutes = [homeRegionRoute, operationListRoute, detailsRoute] ++ statusRoute ::
      [storedPositionRoute] := rfl
  obtain ⟨cw', hrun, hcw'⟩ := h.getObject lockedDoor_statusAddress hsplit (by simp [h1, h2, h3]) h4 rfl rfl
    (by rw [hclean]; exact herr) (by rw [hclean]; exact hne)
  refine ⟨cw', ?_, hcw'⟩
  rw [Vehicle.getVehicleStatus, run'_bind_lift, hrun, hclean, lockedDoorText_parse]
  rfl

/-- The operation list of `V`, read under the live security token. -/
theorem AtLockedDoor.getServices {cw : ClientWorld} (h : AtLockedDoor cw) :
    ∃ cw', (getServices "V").run' cw = (.ok ServiceList.empty, cw') ∧ AtLockedDoor cw' := by
  obtain ⟨⟨-, hempty⟩, -, herr, hne⟩ := lockedDoor_texts
  obtain ⟨-, h1, h2, -⟩ := lockedDoor_accepts
  have hlive : cw.client.securityToken.expiredAt cw.outside.clock = .ok false := by
    rw [h.security, h.clock]
    rfl
  have hheaders : homeRegionHeaders.run' cw = (.ok (regionHeaderList cw.client.securityToken), cw) := by
    simp only [homeRegionHeaders, createSecurityToken, renewExpired, client, expiredNow, now, run'_bind,
      run'_get, run'_pure, run'_lift, hlive, Bool.not_false, if_true]
  let r : ServiceRequest :=
    { method := "GET", template := operationListUri, headers := regionHeaderList cw.client.securityToken, vin := "V" }
  have haddr : r.address cw.client.config =
      .ok "https://mal-1a.prd.ece.vwg-connect.com/api/rolesrights/operationlist/v3/vehicles/V" := by
    rw [ServiceRequest.address, h.brandUrl]
    exact lockedDoor_operationListAddress
  have hsplit : cw.outside.network.routes = [homeRegionRoute] ++ operationListRoute ::
      [detailsRoute, statusRoute, storedPositionRoute] := h.routes
  obtain ⟨cw', hrun, hcl, hclk, hrt⟩ := request_answered rfl h.session haddr hsplit
    (fun s hs => by rw [List.mem_singleton.1 hs]; exact h1) h2 rfl
    (by rw [hempty]; exact herr) (by rw [hempty]; exact hne)
  refine ⟨cw', ?_, h.of_client hcl hclk hrt⟩
  rw [Vehicle.getServices, run'_bind, hheaders]
  dsimp only
  rw [run'_bind, hrun, hempty]
  rfl

/-- A read of the client in a world of that service that yields `v`. -/
theorem lockedDoor_via {α : Type} {x : ClientM α} {v : α}
    (hx : ∀ cw, AtLockedDoor cw → ∃ cw', x.run' cw = (.ok v, cw') ∧ AtLockedDoor cw') {E : Fault → CarWorld → Prop} :
    Triple (fun w => AtLockedDoor ⟨w.client, w.outside⟩) (viaClient x)
      (fun a w => a = v ∧ AtLockedDoor ⟨w.client, w.outside⟩) E := by
  refine Triple.focus fun w hw => ?_
  obtain ⟨cw', hrun, hcw'⟩ := hx _ hw
  rw [hrun]
  exact ⟨rfl, hcw'⟩

/-- A change of the account that keeps its brand, country and default home region. -/
theorem lockedDoor_modifyConfig {f : AccountConfig → AccountConfig} (hb : ∀ a, (f a).brand = a.brand)
    (hc : ∀ a, (f a).country = a.country)
    (hr : ∀ a, a.homeRegion = defaultHomeRegion → (f a).homeRegion = defaultHomeRegion) {E : Fault → CarWorld → Prop} :
    Triple (fun w => AtLockedDoor ⟨w.client, w.outside⟩) (modifyConfig f)
      (fun _ w => AtLockedDoor ⟨w.client, w.outside⟩) E :=
  Triple.modify fun _ hw => ⟨hw.session, hw.access, hw.security, (hb _).trans hw.brand, (hc _).trans hw.country,
    hr _ hw.region, hw.clock, hw.routes⟩

/-- **The first update of `V` against that service discovers the channel of the locked door**,
however the rest of it ends. -/
theorem lockedDoor_initialize :
    Triple (fun w => AtLockedDoor ⟨w.client, w.outside⟩ ∧ w.car.vin = "V") Car.initialize
      (fun _ w => w.car.channels = lockedDoorChannels) (fun _ w => w.car.channels = lockedDoorChannels) := by
  unfold Car.initialize
  refine Triple.bind (Q := fun c w => c.vin = "V" ∧ AtLockedDoor ⟨w.client, w.outside⟩)
    (fun w hw => ⟨hw.2, hw.1⟩) fun c => Triple.of_fact fun hc => ?_
  rw [hc]
  dsimp only
  refine Triple.bind (Q := fun _ w => AtLockedDoor ⟨w.client, w.outside⟩) ?_ fun _ => ?_
  · exact lockedDoor_modifyConfig (by intro; rfl) (by intro; rfl) (by intro _ h; exact h)
  refine Triple.bind (lockedDoor_via fun _ h => h.getHomeRegionUrl) fun home => Triple.of_fact fun hhome => ?_
  subst hhome
  -- the home region written down is the default one
  refine Triple.bind (Q := fun _ w => AtLockedDoor ⟨w.client, w.outside⟩) ?_ fun _ => ?_
  · exact lockedDoor_modifyConfig (by intro; rfl) (by intro; rfl)
      (by intro _ _; simp [AccountConfig.homeRegion, memberText])
  refine Triple.bind (lockedDoor_via fun _ h => h.getServices) fun _ => Triple.of_fact fun _ => ?_
  refine Triple.bind (Q := fun _ w => AtLockedDoor ⟨w.client, w.outside⟩) (Triple.modify fun _ hw => hw) fun _ => ?_
  refine Triple.bind (Q := fun _ w => AtLockedDoor ⟨w.client, w.outside⟩) ?_ fun _ => ?_
  · exact lockedDoor_modifyConfig (by intro; rfl) (by intro; rfl) (by intro _ h; exact h)
  refine Triple.bind (Triple.attempt (Q := fun r w => r = .ok VehicleDetails.empty ∧ AtLockedDoor ⟨w.client, w.outside⟩)
    (Triple.conseq (lockedDoor_via fun _ h => h.getVehicleDetails) (fun _ h => h)
      (fun _ _ h => ⟨congrArg Except.ok h.1, h.2⟩) fun _ _ h => h)) fun r => Triple.of_fact fun hr => ?_
  subst hr
  dsimp only
  refine Triple.bind (Q := fun _ w => AtLockedDoor ⟨w.client, w.outside⟩) (Triple.modify fun _ hw => hw) fun _ => ?_
  exact discovery_channels (Triple.conseq (lockedDoor_via fun _ h => h.getVehicleStatus) (fun _ h => h)
    (fun _ _ h => h.1) fun _ _ h => h)

/-- **That service answers the status request of `V` with the locked door's report only**: the
routes of the home region, the operation list, the details and the parking position, whose answers
would read as reports without channels, do not take it. -/
theorem lockedDoor_reportsChannels :
    ReportsChannels lockedDoorChannels lockedDoorClient.config "V" lockedDoorOutside.network := by
  obtain ⟨⟨hclean, -⟩, -, -⟩ := lockedDoor_texts
  obtain ⟨-, -, -, -, -, -, h1, h2, h3, -, h5⟩ := lockedDoor_accepts
  rintro b sr ⟨url, hurl, r, hr, hacc, s, reason, ho⟩ hsr
  rw [lockedDoor_statusAddress] at hurl
  cases hurl
  simp only [lockedDoorOutside, lockedDoorRoutes, List.mem_cons, List.mem_nil_iff, or_false] at hr
  rcases hr with rfl | rfl | rfl | rfl | rfl
  · rw [h1] at hacc
    cases hacc
  · rw [h2] at hacc
    cases hacc
  · rw [h3] at hacc
    cases hacc
  · -- the status route answers with the report of the locked door
    cases ho
    rw [hclean, lockedDoorText_parse] at hsr
    have hread : StatusReport.read (frontLockDoc "2") = .ok sr := hsr
    rw [frontLockDoc_read] at hread
    cases hread
    rfl
  · rw [h5] at hacc
    cases hacc

/-- **A run of two updates that discovers channels**: against that service, the first update of `V`
discovers the channel of the locked door, the second keeps it, and every value is of it. -/
theorem discoveredChannels_law_lockedDoor :
    let w0 : CarWorld := { client := lockedDoorClient, car := Car.ofVin "V", outside := lockedDoorOutside }
    let c1 := (Exec.run' Car.update w0).2.car
    let c2 := (Exec.run' Car.update { w0 with car := c1 }).2.car
    c1.channels = lockedDoorChannels ∧ c2.channels = lockedDoorChannels ∧ lockedDoorChannels ≠ [] ∧
      ∀ k ∈ c2.values.map (·.1), k ∈ c2.channels.map (·.1) := by
  intro w0 c1 c2
  have hvin0 : (Car.ofVin "V").vin = "V" := by
    simp [Car.ofVin, Text.upper, Text.upperOf]
  have hS (c : Car) (hc : c.vin = "V") :
      ReportsChannels lockedDoorChannels lockedDoorClient.config c.vin lockedDoorOutside.network :=
    hc ▸ lockedDoor_reportsChannels
  -- the first update initializes the vehicle, which discovers the channel however it ends
  have h1 : c1.channels = lockedDoorChannels := by
    have ht := lockedDoor_initialize w0 ⟨⟨rfl, rfl, rfl, rfl, rfl, rfl, rfl, rfl⟩, hvin0⟩
    show (Exec.run' Car.update w0).2.car.channels = _
    rw [Car.update_of_uninitialized w0 rfl]
    rcases hr : Exec.run' Car.initialize w0 with ⟨_ | _, w'⟩ <;> rw [hr] at ht <;> exact ht
  have hvin1 : c1.vin = "V" := (Car.update_vin w0).trans hvin0
  refine ⟨h1, Car.update_channels_stay (hS c1 hvin1) h1, lockedDoorChannels_ne_nil,
    (discoveredChannels_law "V" lockedDoorChannels).2 c2 ?_⟩
  exact .tail (.single ⟨lockedDoorClient, lockedDoorOutside, hS _ hvin0, rfl⟩)
    ⟨lockedDoorClient, lockedDoorOutside, hS c1 hvin1, rfl⟩

end Vehicle
end ConnectedHome
