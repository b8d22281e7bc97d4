import ConnectedHome.Proofs.EntrySettings
import ConnectedHome.Proofs.CoordinatorUpdate
import ConnectedHome.Vehicle.Integration
import ConnectedHome.Speaker.Integration
import ConnectedHome.Proofs.SpeakerReads
/-!
# FollowedSettings — the scan interval and the volume synchronisation an entry asks for

A vehicle entry's coordinator polls at the entry's scan interval (`scanIntervalOf`), and a speaker
entry's speaker synchronises volumes as the entry's `sync_volume` setting says; both settings are
read from the options, else from the data, else from a default.  Setting the entry up reads the
setting; the entry's options listener reads it again after every change of the entry.

- `carOptionsUpdated_cases`: the vehicle's listener takes the interval the new scan interval makes,
  and asks for a refresh, exactly when the coordinator polls at an interval other than zero that,
  read as seconds, differs from the scan interval, and the scan interval makes an interval;
- `carOptionsUpdated_restores`: so the coordinator follows every scan interval that makes an
  interval other than zero; it never leaves an interval of zero (`carOptionsUpdated_zero`) and
  ignores a scan interval that makes no interval (`carOptionsUpdated_ignores`);
- `speakerSetupEntry_syncs`: a speaker set up keeps the setting its entry gave it through its first
  update (`speakerUpdate_settings`);
- `speakerOptionsUpdated_syncs`: the speaker's listener takes the flag from the options alone, off
  without one, which is the entry's setting exactly when `SyncAgrees` (`optionsFlag_eq_setting_iff`);
- `effectiveSettings_law`: what setting an entry up and every later run of changes leave.
-/
namespace ConnectedHome

open Hub Exec

namespace Vehicle

/-! ## The scan interval of a vehicle -/

/-- The scan interval of `e` makes an interval other than zero. -/
def ValidScanInterval (e : ConfigEntry) : Prop := ∃ us, secondsMicros (scanIntervalOf e) = .ok us ∧ us ≠ 0

/-- The coordinator polls every `us` microseconds. -/
def PollsEvery (us : Int) (w : PolledCar) : Prop := w.coordinator.interval = some us

/-- The coordinator polls, at an interval other than zero. -/
def Polls (w : PolledCar) : Prop := ∃ us, PollsEvery us w ∧ us ≠ 0

/-- The coordinator polls at the interval the scan interval of `e` makes. -/
def PollsAtScanInterval (e : ConfigEntry) (w : PolledCar) : Prop :=
  ∃ us, secondsMicros (scanIntervalOf e) = .ok us ∧ PollsEvery us w

/-- **The coordinator follows the scan interval of `e`**: it polls at the interval the scan interval
makes, or at one that, read as seconds, equals the scan interval. -/
def FollowsScanInterval (e : ConfigEntry) (w : PolledCar) : Prop :=
  ∃ us, PollsEvery us w ∧
    (secondsMicros (scanIntervalOf e) = .ok us ∨ (Value.float (microsSeconds us)).same (scanIntervalOf e) = true)

/-- Telling `w` the scan interval of `e` retunes it to `us'`: it polls at an interval other than
zero that, read as seconds, differs from the scan interval, which makes the interval `us'`. -/
def Retunes (e : ConfigEntry) (w : PolledCar) (us' : Int) : Prop :=
  ∃ us, PollsEvery us w ∧ us ≠ 0 ∧
    (Value.float (microsSeconds us)).same (scanIntervalOf e) = false ∧ secondsMicros (scanIntervalOf e) = .ok us'

/-- **Telling a vehicle entry its scan interval**: the listener succeeds, keeps the registry, the
registrations and every other entry's runtime data; the entry's coordinator is retuned, and only
its interval changes, when `Retunes` says so, and is kept as it was otherwise. -/
theorem carOptionsUpdated_cases (h : CarHome) {id : String} {e : ConfigEntry} (he : h.registry.find? id = some e) :
    ∃ h', (carOptionsUpdated id).run' h = (.ok (), h') ∧ h'.registry = h.registry ∧
      h'.optionsListeners = h.optionsListeners ∧ (∀ x, x ≠ id → h'.runtime.lookup x = h.runtime.lookup x) ∧
      ∀ w, h.runtime.lookup id = some w →
        (∃ us', Retunes e w us' ∧
          h'.runtime.lookup id = some { w with coordinator := { w.coordinator with interval := some us' } }) ∨
        ((∀ us', ¬ Retunes e w us') ∧ h'.runtime.lookup id = some w) := by
  unfold carOptionsUpdated
  simp only [run'_bind, knownEntry_run', Registry.known_eq_ok.2 he, runtimeOf?_run']
  cases hw : h.runtime.lookup id with
  | none =>
    refine ⟨h, rfl, rfl, rfl, fun _ _ => rfl, fun w hw' => ?_⟩
    cases hw'
  | some w =>
    dsimp only
    by_cases hr : ∃ us', Retunes e w us'
    · -- the coordinator takes the new interval and asks for a refresh
      obtain ⟨us', us, hi, h0, hsame, hok⟩ := hr
      have hg : (us != 0 && !(Value.float (microsSeconds us)).same (scanIntervalOf e)) = true := by
        simp [h0, hsame]
      simp only [PollsEvery] at hi
      simp only [hi, if_pos hg, hok, run'_bind, putRuntime_run', recordRefresh, modifyJournal, run'_modify]
      refine ⟨_, rfl, rfl, rfl, fun x hx => ?_, ?_⟩
      · simp [lookup_assocPut, Ne.symm hx]
      · rintro w' ⟨⟩
        exact .inl ⟨us', ⟨us, hi, h0, hsame, hok⟩, by simp [lookup_assocPut]⟩
    · -- nothing changes
      refine ⟨h, ?_, rfl, rfl, fun _ _ => rfl, ?_⟩
      · cases hi : w.coordinator.interval with
        | none => rfl
        | some us =>
          dsimp only
          split
          · rename_i hg
            cases hs : secondsMicros (scanIntervalOf e) with
            | error f => rfl
            | ok us' =>
              simp only [Bool.and_eq_true, bne_iff_ne, ne_eq, Bool.not_eq_true'] at hg
              exact absurd ⟨us', us, hi, hg.1, hg.2, hs⟩ hr
          · rfl
      · rintro w' ⟨⟩
        exact .inr ⟨fun us' h' => hr ⟨us', h'⟩, hw⟩

/-- **The coordinator follows every scan interval that makes an interval other than zero.** -/
theorem carOptionsUpdated_restores :
    ListenerRestores carOptionsUpdated ValidScanInterval Polls FollowsScanInterval := by
  intro id h e he
  obtain ⟨h', hrun, hreg, hlis, hrt, hcases⟩ := carOptionsUpdated_cases h he
  refine ⟨h', hrun, hreg, hlis, hrt, fun ⟨v, hv, hv0⟩ w hw ⟨us, hi, hus⟩ => ?_⟩
  rcases hcases w hw with ⟨us', ⟨_, -, -, -, hok⟩, hw'⟩ | ⟨hnot, hw'⟩
  · -- retuned to the interval the scan interval makes
    obtain rfl : us' = v := by rw [hv] at hok; exact (Except.ok.inj hok).symm
    exact ⟨_, hw', ⟨us', rfl, hv0⟩, us', rfl, .inl hv⟩
  · -- kept: the interval, read as seconds, is the scan interval already
    refine ⟨w, hw', ⟨us, hi, hus⟩, us, hi, .inr ?_⟩
    cases hs : (Value.float (microsSeconds us)).same (scanIntervalOf e) with
    | true => rfl
    | false => exact absurd ⟨us, hi, hus, hs, hv⟩ (hnot v)

/-- **An interval of zero is never left**: a coordinator that polls at no interval is not told. -/
theorem carOptionsUpdated_zero :
    ListenerRestores carOptionsUpdated (fun _ => True) (PollsEvery 0) (fun _ _ => True) := by
  intro id h e he
  obtain ⟨h', hrun, hreg, hlis, hrt, hcases⟩ := carOptionsUpdated_cases h he
  refine ⟨h', hrun, hreg, hlis, hrt, fun _ w hw hi => ?_⟩
  rcases hcases w hw with ⟨us', ⟨us, hi', hus, -⟩, -⟩ | ⟨-, hw'⟩
  · simp only [PollsEvery] at hi hi'
    rw [hi] at hi'
    cases hi'
    exact absurd rfl hus
  · exact ⟨w, hw', hi, trivial⟩

/-- **A scan interval that makes no interval is ignored.** -/
theorem carOptionsUpdated_ignores (i : Option Int) :
    ListenerRestores carOptionsUpdated (fun e => ∀ us, secondsMicros (scanIntervalOf e) ≠ .ok us)
      (fun w => w.coordinator.interval = i) (fun _ _ => True) := by
  intro id h e he
  obtain ⟨h', hrun, hreg, hlis, hrt, hcases⟩ := carOptionsUpdated_cases h he
  refine ⟨h', hrun, hreg, hlis, hrt, fun hnone w hw hi => ?_⟩
  rcases hcases w hw with ⟨us', ⟨-, -, -, -, hok⟩, -⟩ | ⟨-, hw'⟩
  · exact absurd hok (hnone us')
  · exact ⟨w, hw', hi, trivial⟩

/-! ### Setting a vehicle entry up -/

/-- An update of the vehicle keeps the coordinator's interval. -/
theorem pollUpdate_interval (w : PolledCar) : (pollUpdate.run' w).2.coordinator.interval = w.coordinator.interval := by
  rw [pollUpdate_run']
  split <;> rfl

theorem onClient_registry {σ ρ α : Type} (c : VehicleClient) (x : ClientM α) (R : Registry)
    {E : Fault → Home σ ρ → Prop} :
    Triple (fun h : Home σ ρ => h.registry = R) (onClient c x) (fun _ h => h.registry = R) E :=
  fun _ hR => hR

/-- **Setting a vehicle entry up** keeps the registry, registers the entry's listener, and leaves a
coordinator that polls at the interval the entry's scan interval makes. -/
theorem carSetupEntry_triple (e : ConfigEntry) (R : Registry) :
    Triple (fun h : CarHome => h.registry = R) (carSetupEntry e)
      (fun _ h => e.entryId ∈ h.optionsListeners ∧ RuntimeHolds R e.entryId (PollsAtScanInterval e) h)
      (fun _ _ => True) := by
  unfold carSetupEntry
  refine Triple.bind Triple.lift_keeps fun config => ?_
  refine Triple.bind (onClient_registry _ _ R) fun rc => ?_
  rcases rc with ⟨_ | u, client⟩
  · exact Triple.throw_bind
  dsimp only
  refine Triple.bind Triple.lift_keeps fun vin => ?_
  refine Triple.bind (Triple.lift (Q := fun us h => secondsMicros (scanIntervalOf e) = .ok us ∧ h.registry = R)
    (fun _ hok _ hs => ⟨hok, hs⟩) fun _ _ _ _ => trivial) fun us => Triple.of_fact fun hok => ?_
  refine Triple.bind Triple.lift_keeps fun vin => ?_
  refine Triple.bind (Triple.get (Q := fun _ h => h.registry = R) fun _ hs => hs) fun h0 => ?_
  -- from here on the entry's coordinator polls every `us` microseconds
  refine Triple.bind (Q := fun _ => RuntimeHolds R e.entryId (PollsEvery us)) (fun s hs => ⟨hs, by simp [PollsEvery]⟩)
    fun _ => ?_
  refine Triple.bind (Triple.attempt (Q := fun _ => RuntimeHolds R e.entryId (PollsEvery us))
    (onRuntime_keeps (P := PollsEvery us) (fun w _ hw => (pollUpdate_interval _).trans hw) e.entryId R))
    fun res => ?_
  cases res with
  | error f =>
    -- a failed first update fails the setup
    refine Triple.bind Triple.of_true fun o => ?_
    cases o with
    | some w =>
      exact Triple.bind Triple.of_true fun _ => Triple.throw_bind
    | none => exact Triple.throw_bind
  | ok car =>
    refine Triple.bind (Q := fun _ => RuntimeHolds R e.entryId (PollsEvery us)) (fun s hs => hs) fun o => ?_
    have hlisten : Triple (fun h : CarHome => RuntimeHolds R e.entryId (PollsEvery us) h)
        (do listenToOptions e.entryId; pure true)
        (fun _ h => e.entryId ∈ h.optionsListeners ∧ RuntimeHolds R e.entryId (PollsAtScanInterval e) h)
        (fun _ _ => True) := by
      rintro s ⟨hR, w, hw, hi⟩
      simp only [run'_bind, listenToOptions_run', run'_pure]
      exact ⟨by simp, hR, w, by simpa using hw, us, hok, hi⟩
    cases o with
    | some w =>
      refine Triple.bind (Triple.forIn (I := RuntimeHolds R e.entryId (PollsEvery us)) fun _ _ =>
        Triple.bind (Q := fun _ => RuntimeHolds R e.entryId (PollsEvery us)) (fun s hs => hs) fun _ =>
          Triple.pure fun _ hs => hs) fun _ => hlisten
    | none => exact hlisten

/-- **A vehicle entry set up** is loaded, its listener registered, and its coordinator polls at
the interval its scan interval makes. -/
theorem carSetUp_polls {h h' : CarHome} {id : String} (hrun : (carIntegration.setUp id).run' h = (.ok true, h')) :
    ∃ e w, h.registry.find? id = some e ∧ h'.registry.find? id = some { e with state := .loaded, reason := .null } ∧
      id ∈ h'.optionsListeners ∧ h'.runtime.lookup id = some w ∧ PollsAtScanInterval e w :=
  setupEntry_establishes carSetupEntry_triple hrun

end Vehicle

/-! ## The volume synchronisation of a speaker -/

namespace Speaker

/-! ### Setting a speaker entry up -/

/-- The speaker synchronises volumes as `v` says. -/
def SyncsAs (v : Value) (p : PolledSpeaker) : Prop := p.home.speaker.syncVolume = v

/-- Starting the listener changes only the shared data. -/
theorem startListener_shared (h : SpeakerHub) : ∃ res sh, startListener.run' h = (res, { h with shared := sh }) := by
  simp only [startListener, sharedListener, modifyShared, modifyListener, run'_bind, run'_get, run'_modify,
    run'_pure]
  split
  · exact ⟨_, _, rfl⟩
  · simp only [run'_bind, run'_get]
    split
    · exact ⟨_, _, rfl⟩
    · exact ⟨_, _, rfl⟩

/-- **Setting a speaker entry up** keeps the registry, registers the entry's listener, and leaves a
speaker that synchronises volumes as the entry's setting says. -/
theorem speakerSetupEntry_syncs (e : ConfigEntry) (R : Registry) :
    Triple (fun h : SpeakerHub => h.registry = R) (speakerSetupEntry e)
      (fun _ h => e.entryId ∈ h.optionsListeners ∧
        RuntimeHolds R e.entryId (SyncsAs (e.setting "sync_volume" (.bool false))) h)
      (fun _ _ => True) := by
  unfold speakerSetupEntry
  refine Triple.bind Triple.lift_keeps fun host => ?_
  refine Triple.bind (Triple.get (Q := fun h0 h => h = h0 ∧ h.registry = R) fun _ hs => ⟨rfl, hs⟩) fun h0 => ?_
  -- the speaker's first update runs on a state of its own and keeps what the entry gave it
  dsimp only
  rcases hres : run' speakerUpdate
      { home := { client := { host := host.display },
                  speaker := { name := e.title.display, syncVolume := e.setting "sync_volume" (.bool false),
                               peers := some (knownSpeakers h0.registry) },
                  outside := h0.outside } } with ⟨r, p⟩
  dsimp only
  have hsync : SyncsAs (e.setting "sync_volume" (.bool false)) p := by
    have h1 := congrArg (fun res => res.2.home.speaker.settings) hres
    rw [speakerUpdate_settings] at h1
    exact (congrArg (fun s => s.2.1) h1).symm
  refine Triple.bind (Triple.set (Q := fun _ h => h.registry = R) fun _ ⟨hh, hs⟩ => hh ▸ hs) fun _ => ?_
  cases r with
  | error f => exact Triple.throw_bind
  | ok u =>
    refine Triple.bind (Q := fun _ (h : SpeakerHub) => h.registry = R) (fun s hs => ?_) fun _ => ?_
    · obtain ⟨res, sh, hr⟩ := startListener_shared s
      rw [hr]
      cases res with
      | error f => trivial
      | ok u => exact hs
    refine Triple.bind (Q := fun _ (h : SpeakerHub) => h.registry = R) (fun s hs => hs) fun _ => ?_
    -- from here on the entry's speaker synchronises volumes as the entry says
    refine Triple.bind (Q := fun _ => RuntimeHolds R e.entryId (SyncsAs (e.setting "sync_volume" (.bool false))))
      (fun s hs => ⟨hs, p, by simp, hsync⟩) fun _ => ?_
    refine Triple.bind (Triple.forIn fun _ _ =>
      Triple.bind (Q := fun _ => RuntimeHolds R e.entryId (SyncsAs (e.setting "sync_volume" (.bool false))))
        (fun s hs => hs) fun _ => Triple.pure fun _ hs => hs) fun _ => ?_
    refine Triple.bind (Q := fun _ => RuntimeHolds R e.entryId (SyncsAs (e.setting "sync_volume" (.bool false))))
      (fun s hs => hs) fun _ => ?_
    refine Triple.bind (Q := fun _ => RuntimeHolds R e.entryId (SyncsAs (e.setting "sync_volume" (.bool false))))
      (fun s hs => ⟨hs.1, by simpa [SyncsAs] using hsync⟩) fun _ => ?_
    rintro s ⟨hR, q, hq, hqs⟩
    simp only [run'_bind, listenToOptions_run', run'_pure]
    exact ⟨by simp, hR, q, by simpa using hq, hqs⟩

/-- **A speaker entry set up** is loaded, its listener registered, and its speaker synchronises
volumes as the entry's setting says. -/
theorem speakerSetUp_syncs {h h' : SpeakerHub} {id : String}
    (hrun : (speakerIntegration.setUp id).run' h = (.ok true, h')) :
    ∃ e p, h.registry.find? id = some e ∧ h'.registry.find? id = some { e with state := .loaded, reason := .null } ∧
      id ∈ h'.optionsListeners ∧ h'.runtime.lookup id = some p ∧
      SyncsAs (e.setting "sync_volume" (.bool false)) p :=
  setupEntry_establishes speakerSetupEntry_syncs hrun

/-! ### Telling a speaker entry its options -/

/-- The options' own volume synchronisation flag is the entry's setting: the options have one, or
the data's is off or absent. -/
def SyncAgrees (e : ConfigEntry) : Prop :=
  (e.options.field? "sync_volume").isSome ∨ (e.data.field? "sync_volume").getD (.bool false) = .bool false

/-- **The options' own flag is the setting** exactly when the options have one, or the data's is
the default or absent. -/
theorem optionsFlag_eq_setting_iff (e : ConfigEntry) (k : String) (d : Value) :
    (e.options.field? k).getD d = e.setting k d ↔ (e.options.field? k).isSome ∨ (e.data.field? k).getD d = d := by
  unfold ConfigEntry.setting
  cases e.options.field? k with
  | some v => simp
  | none => simp [eq_comm]

/-- **The speaker takes the options' own flag**, off without one. -/
theorem speakerOptionsUpdated_syncs :
    ListenerRestores speakerOptionsUpdated (fun _ => True) (fun _ => True)
      (fun e => SyncsAs ((e.options.field? "sync_volume").getD (.bool false))) := by
  intro id h e he
  unfold speakerOptionsUpdated
  simp only [run'_bind, knownEntry_run', Registry.known_eq_ok.2 he, runtimeOf?_run']
  cases hp : h.runtime.lookup id with
  | none =>
    refine ⟨h, rfl, rfl, rfl, fun _ _ => rfl, fun _ r hr _ => ?_⟩
    cases hr
  | some p =>
    refine ⟨_, rfl, rfl, rfl, fun x hx => by simp [Ne.symm hx], fun _ r _ _ => by simp [SyncsAs]⟩

/-- **The speaker follows its entry's setting** through every change after which the options' own
flag is the setting. -/
theorem speakerOptionsUpdated_restores :
    ListenerRestores speakerOptionsUpdated SyncAgrees (fun _ => True)
      (fun e => SyncsAs (e.setting "sync_volume" (.bool false))) :=
  speakerOptionsUpdated_syncs.mono (fun _ _ => trivial) fun e _ hv hs =>
    hs.trans ((optionsFlag_eq_setting_iff e "sync_volume" (.bool false)).2 hv)

end Speaker

/-! ## What the runtime data follows -/

namespace Vehicle

/-- **A vehicle entry set up with a scan interval that makes an interval other than zero** is
followed: its coordinator polls, at that interval. -/
theorem carSetUp_follows {h h' : CarHome} {id : String} {e : ConfigEntry} (he : h.registry.find? id = some e)
    (hrun : (carIntegration.setUp id).run' h = (.ok true, h')) (hv : ValidScanInterval e) :
    Follows FollowsScanInterval Polls id h' := by
  obtain ⟨e', w, he', hfound, hin, hw, us, hok, hi⟩ := carSetUp_polls hrun
  obtain rfl : e' = e := Option.some.inj (he'.symm.trans he)
  obtain ⟨v, hv, hv0⟩ := hv
  obtain rfl : us = v := Except.ok.inj (hok.symm.trans hv)
  exact ⟨_, w, hfound, hin, hw, ⟨us, hi, hv0⟩, us, hi, .inl hok⟩

/-- A vehicle entry set up with a scan interval of zero polls at no interval. -/
theorem carSetUp_zero {h h' : CarHome} {id : String} {e : ConfigEntry} (he : h.registry.find? id = some e)
    (hrun : (carIntegration.setUp id).run' h = (.ok true, h')) (hzero : secondsMicros (scanIntervalOf e) = .ok 0) :
    Follows (fun _ _ => True) (PollsEvery 0) id h' := by
  obtain ⟨e', w, he', hfound, hin, hw, us, hok, hi⟩ := carSetUp_polls hrun
  obtain rfl : e' = e := Option.some.inj (he'.symm.trans he)
  obtain rfl : us = 0 := Except.ok.inj (hok.symm.trans hzero)
  exact ⟨_, w, hfound, hin, hw, hi, trivial⟩

end Vehicle

namespace Speaker

/-- A speaker entry set up is followed: its speaker synchronises volumes as the entry's setting
says. -/
theorem speakerSetUp_follows {h h' : SpeakerHub} {id : String}
    (hrun : (speakerIntegration.setUp id).run' h = (.ok true, h')) :
    Follows (fun e => SyncsAs (e.setting "sync_volume" (.bool false))) (fun _ => True) id h' := by
  obtain ⟨e, p, -, hfound, hin, hp, hs⟩ := speakerSetUp_syncs hrun
  exact ⟨_, p, hfound, hin, hp, trivial, hs⟩

end Speaker

/-- **The settings an entry's runtime data follows.**  A vehicle entry set up with a scan interval
that makes an interval other than zero polls at its scan interval after every run of changes to
such scan intervals; one set up at an interval of zero stays there whatever changes, and a change
to a scan interval that makes no interval changes nothing.  A speaker entry set up synchronises
volumes as its setting (options, else data, else off) says, and keeps doing so through every run of
changes after which the options' own flag is the setting; every change of options told to it sets
the options' own flag, off without one, which is the setting exactly when the options have a flag
or the data's is off or absent. -/
theorem effectiveSettings_law (id : String) :
    (∀ (h h' h'' : Vehicle.CarHome) (e : ConfigEntry), h.registry.find? id = some e →
      (Vehicle.carIntegration.setUp id).run' h = (.ok true, h') → Vehicle.ValidScanInterval e →
      Relation.ReflTransGen (EntryUpdate Vehicle.carIntegration.optionsUpdated Vehicle.ValidScanInterval) h' h'' →
      Follows Vehicle.FollowsScanInterval Vehicle.Polls id h'') ∧
    (∀ (h h' h'' : Vehicle.CarHome) (e : ConfigEntry), h.registry.find? id = some e →
      (Vehicle.carIntegration.setUp id).run' h = (.ok true, h') →
      secondsMicros (Vehicle.scanIntervalOf e) = .ok 0 →
      Relation.ReflTransGen (EntryUpdate Vehicle.carIntegration.optionsUpdated fun _ => True) h' h'' →
      Follows (fun _ _ => True) (Vehicle.PollsEvery 0) id h'') ∧
    (∀ (h h' : Vehicle.CarHome) (i : Option Int),
      Follows (fun _ _ => True) (fun w => w.coordinator.interval = i) id h →
      Relation.ReflTransGen (EntryUpdate Vehicle.carIntegration.optionsUpdated
        fun e => ∀ us, secondsMicros (Vehicle.scanIntervalOf e) ≠ .ok us) h h' →
      Follows (fun _ _ => True) (fun w => w.coordinator.interval = i) id h') ∧
    (∀ (h h' h'' : Speaker.SpeakerHub), (Speaker.speakerIntegration.setUp id).run' h = (.ok true, h') →
      Relation.ReflTransGen (EntryUpdate Speaker.speakerIntegration.optionsUpdated Speaker.SyncAgrees) h' h'' →
      Follows (fun e => Speaker.SyncsAs (e.setting "sync_volume" (.bool false))) (fun _ => True) id h'') ∧
    (∀ (h h' : Speaker.SpeakerHub) (o : Value) (p : Speaker.PolledSpeaker),
      (Speaker.speakerIntegration.changeOptions id o).run' h = (.ok true, h') → id ∈ h.optionsListeners →
      h.runtime.lookup id = some p →
      Follows (fun e => Speaker.SyncsAs ((e.options.field? "sync_volume").getD (.bool false))) (fun _ => True)
        id h') ∧
    (∀ e : ConfigEntry, (e.options.field? "sync_volume").getD (.bool false) = e.setting "sync_volume" (.bool false) ↔
      Speaker.SyncAgrees e) := by
  refine ⟨fun h h' h'' e he hrun hv hs => ?_, fun h h' h'' e he hrun hz hs => ?_, fun h h' i hf hs => ?_,
    fun h h' h'' hrun hs => ?_, fun h h' o p hrun hin hp => ?_, fun e => ?_⟩
  · exact EntryUpdate.follows_run Vehicle.carOptionsUpdated_restores hs (Vehicle.carSetUp_follows he hrun hv)
  · exact EntryUpdate.follows_run Vehicle.carOptionsUpdated_zero hs (Vehicle.carSetUp_zero he hrun hz)
  · exact EntryUpdate.follows_run (Vehicle.carOptionsUpdated_ignores i) hs hf
  · exact EntryUpdate.follows_run Speaker.speakerOptionsUpdated_restores hs (Speaker.speakerSetUp_follows hrun)
  · exact Follows.of_updateOptions Speaker.speakerOptionsUpdated_syncs hrun hin hp trivial fun _ _ => trivial
  · exact Speaker.optionsFlag_eq_setting_iff e "sync_volume" (.bool false)

end ConnectedHome
