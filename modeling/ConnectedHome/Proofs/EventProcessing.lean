import ConnectedHome.Speaker.Refresh
import ConnectedHome.Proofs.ReadFaults
import Mathlib.Data.List.Forall2
/-!
# EventProcessing — what a pushed event does to a speaker

An event is read from a packet into zone parts, in the order `main`, `zone2`, `zone3`, `zone4`
and for the zones whose part is an object, and a player part (`SpeakerEvent.read`).  Processing it
(`processEvent`) follows a plan (`eventPlan`, `processEvent_eq_plan`): for each zone part, its
assignments and, when the part says its status was updated, one read of the zone; then a read of
the presets with the number the event names, when it names one, and a read of the player, when
the event says its play information was updated.

The assignments of a zone part change power, mute, input and volume and nothing else, each only
when the part reports it (`ZoneState.applyEvent_eq_assign`); they change no other zone and nothing
else of the speaker, send nothing, and make the zone known when it was not
(`assign_run'`).  That last effect is the one thing an event changes beyond what it reports:
a part that reports nothing still adds its zone.
-/
namespace ConnectedHome

/-! ## Reading the members of a record -/

/-- A member of a flat record as it is read from what the document holds for it: its default for
a missing or null member, for a list or an object under rules that skip them, and for a refused
conversion; the converted value otherwise. -/
def ConversionRules.readMember (r : ConversionRules) (s : MemberSpec) (v : Value) :
    Except Fault (String × Value) :=
  let skip := v.isNull || (r.skipsCollections && (match v with | .list _ | .obj _ => true | _ => false))
  if skip then pure (s.name, s.default)
  else match r.convert s.kind v with
    | .ok c => pure (s.name, c)
    | .error f => if f.isConversionRefusal then pure (s.name, s.default) else throw f

theorem ConversionRules.readFlat_obj (r : ConversionRules) (specs : List MemberSpec) {ms : Members}
    (hms : ms ≠ []) :
    r.readFlat specs (.obj ms) = specs.mapM fun s => r.readMember s ((List.lookup s.key ms).getD .null) := by
  unfold ConversionRules.readFlat
  rw [if_neg (by simpa [Value.truthy] using hms)]
  rfl

theorem ConversionRules.readMember_name {r : ConversionRules} {s : MemberSpec} {v : Value}
    {m : String × Value} (h : r.readMember s v = .ok m) : m.1 = s.name := by
  unfold ConversionRules.readMember at h
  dsimp only at h
  -- every branch answers under the spec's name, or fails
  split_ifs at h
  · cases h
    rfl
  · split at h
    · cases h
      rfl
    · -- a refused conversion keeps the default; any other failure is no result
      split_ifs at h
      cases h
      rfl

theorem mapM_eq_ok_forall₂ {α β : Type} {f : α → Except Fault β} :
    ∀ {l : List α} {out : List β}, l.mapM f = .ok out → List.Forall₂ (fun a b => f a = .ok b) l out
  | [], _, h => by
    cases h
    exact .nil
  | a :: l, out, h => by
    rw [List.mapM_cons] at h
    obtain ⟨b, hb, h⟩ := bind_eq_ok.1 h
    obtain ⟨rest, hrest, h⟩ := bind_eq_ok.1 h
    cases h
    exact .cons hb (mapM_eq_ok_forall₂ hrest)

/-- Among members read by specs of distinct names, the one of a spec's name is what it was read as. -/
theorem lookup_of_forall₂ {f : MemberSpec → Except Fault (String × Value)}
    (hf : ∀ s m, f s = .ok m → m.1 = s.name) {specs : List MemberSpec} {out : Members}
    (hall : List.Forall₂ (fun s m => f s = .ok m) specs out) (hnd : (specs.map (·.name)).Nodup) :
    ∀ s ∈ specs, ∃ m, f s = .ok m ∧ out.lookup s.name = some m.2 := by
  induction hall with
  | nil => exact fun _ hs => nomatch hs
  | @cons s0 m specs out hm hrest ih =>
    rw [List.map_cons, List.nodup_cons] at hnd
    have hm1 := hf s0 m hm
    intro s hs
    rcases List.mem_cons.1 hs with rfl | hs
    · exact ⟨m, hm, by simp [Members.lookup, hm1]⟩
    · -- a later spec has another name than the head member's
      have hne : (m.1 == s.name) = false := by
        rw [hm1, beq_eq_false_iff_ne]
        exact fun h => hnd.1 (h ▸ List.mem_map_of_mem hs)
      obtain ⟨m', hm', hc⟩ := ih hnd.2 s hs
      refine ⟨m', hm', ?_⟩
      unfold Members.lookup at hc ⊢
      rw [List.find?_cons, hne]
      exact hc

/-- **A record read from an object that is not empty holds, under each spec's name, what that
member is read as**, when the specs have distinct names. -/
theorem ConversionRules.readFlat_lookup {r : ConversionRules} {specs : List MemberSpec} {ms out : Members}
    (hms : ms ≠ []) (h : r.readFlat specs (.obj ms) = .ok out) (hnd : (specs.map (·.name)).Nodup)
    {s : MemberSpec} (hs : s ∈ specs) :
    ∃ m, r.readMember s ((List.lookup s.key ms).getD .null) = .ok m ∧ out.lookup s.name = some m.2 := by
  rw [r.readFlat_obj specs hms] at h
  exact lookup_of_forall₂ (fun _ _ => readMember_name) (mapM_eq_ok_forall₂ h) hnd s hs

end ConnectedHome

namespace ConnectedHome.Speaker

/-! ## Reading an event -/

/-- The zone part an event reads for zone `z` of a packet: the zone with its reading when the
packet's member is an object, nothing otherwise. -/
def zonePartOf (doc : Value) (z : String) : Except Fault (Option (String × Reply)) := do
  match ← doc.get z with
  | part@(.obj _) => return some (z, ← readZoneEvent part)
  | _ => return none

theorem SpeakerEvent.read_zones {doc : Value} {e : SpeakerEvent} (h : SpeakerEvent.read doc = .ok e) :
    allZones.filterMapM (zonePartOf doc) = .ok e.zones := by
  unfold SpeakerEvent.read at h
  obtain ⟨zones, hz, h⟩ := bind_eq_ok.1 h
  obtain ⟨v, -, h⟩ := bind_eq_ok.1 h
  obtain ⟨netusb, -, h⟩ := bind_eq_ok.1 h
  -- the player part, whatever it is, leaves the zones as read
  split at h <;> obtain ⟨player, -, h⟩ := bind_eq_ok.1 h <;> cases h <;> exact hz

theorem zonePartOf_eq_ok {ms : Members} {z : String} {o : Option (String × Reply)}
    (h : zonePartOf (.obj ms) z = .ok o) :
    (((List.lookup z ms).getD .null).isObj = false ∧ o = none) ∨
      ∃ r, ((List.lookup z ms).getD .null).isObj = true ∧
        readZoneEvent ((List.lookup z ms).getD .null) = .ok r ∧ o = some (z, r) := by
  unfold zonePartOf at h
  obtain ⟨v, hv, h⟩ := bind_eq_ok.1 h
  cases hv
  split at h
  · rename_i part ms' hpart
    obtain ⟨r, hr, h⟩ := bind_eq_ok.1 h
    cases h
    exact .inr ⟨r, by rw [hpart]; rfl, by rw [hpart]; exact hr, rfl⟩
  · rename_i hno
    cases h
    refine .inl ⟨?_, rfl⟩
    cases hv : (List.lookup z ms).getD .null <;> first | rfl | exact absurd hv (hno _)

/-- **The zone parts of an event**: the zones among `main`, `zone2`, `zone3`, `zone4`, in that order,
whose member in the packet is an object, each with the reading of that member. -/
theorem SpeakerEvent.read_zoneParts {ms : Members} {e : SpeakerEvent} (h : SpeakerEvent.read (.obj ms) = .ok e) :
    e.zones.map (·.1) = allZones.filter (fun z => ((List.lookup z ms).getD .null).isObj) ∧
      ∀ zp ∈ e.zones, readZoneEvent ((List.lookup zp.1 ms).getD .null) = .ok zp.2 := by
  have hrun := SpeakerEvent.read_zones h
  generalize allZones = zs at hrun ⊢
  generalize e.zones = out at hrun ⊢
  -- zone by zone: a part is kept exactly when its member is an object
  induction zs generalizing out with
  | nil =>
    cases hrun
    exact ⟨rfl, fun _ h => nomatch h⟩
  | cons z zs ih =>
    rw [List.filterMapM_cons] at hrun
    obtain ⟨o, ho, hrun⟩ := bind_eq_ok.1 hrun
    rcases zonePartOf_eq_ok ho with ⟨hobj, rfl⟩ | ⟨r, hobj, hr, rfl⟩
    · obtain ⟨hnames, hparts⟩ := ih _ hrun
      exact ⟨by simp [hobj, hnames], hparts⟩
    · obtain ⟨rest, hrest, hrun⟩ := bind_eq_ok.1 hrun
      cases hrun
      obtain ⟨hnames, hparts⟩ := ih _ hrest
      refine ⟨by simp [hobj, hnames], fun zp hzp => ?_⟩
      rcases List.mem_cons.1 hzp with rfl | hzp
      · exact hr
      · exact hparts zp hzp

theorem readZoneEvent_member {ms : Members} {r : Reply} (h : readZoneEvent (.obj ms) = .ok r)
    {s : MemberSpec} (hs : s ∈ zoneEventSpecs) {v : Value} (hv : List.lookup s.key ms = some v) :
    ∃ m, ConversionRules.speaker.readMember s v = .ok m ∧ r.get s.name = m.2 := by
  -- a part with a member has members, so it is read member by member
  have hms : ms ≠ [] := by
    rintro rfl
    cases hv
  unfold readZoneEvent at h
  obtain ⟨out, hout, h⟩ := bind_eq_ok.1 h
  cases h
  obtain ⟨m, hm, hl⟩ := ConversionRules.readFlat_lookup hms hout (by decide) hs
  rw [hv, Option.getD_some] at hm
  exact ⟨m, hm, by simp [Reply.get, memberOf, hl]⟩

/-- A text member of a zone part reads a text as it is, and a truth value as `true` or `false`. -/
theorem readZoneEvent_text {ms : Members} {r : Reply} (h : readZoneEvent (.obj ms) = .ok r) {k : String}
    (hk : k = "power" ∨ k = "mute" ∨ k = "input") :
    (∀ t, List.lookup k ms = some (.str t) → r.text? k = some t) ∧
      (∀ b, List.lookup k ms = some (.bool b) → r.text? k = some (if b then "true" else "false")) := by
  have hs : (⟨k, k, .text, .str ""⟩ : MemberSpec) ∈ zoneEventSpecs := by
    rcases hk with rfl | rfl | rfl <;> simp [zoneEventSpecs]
  constructor
  · intro t hv
    obtain ⟨m, hm, hget⟩ := readZoneEvent_member h hs hv
    cases hm
    simp [Reply.text?, hget]
  · intro b hv
    obtain ⟨m, hm, hget⟩ := readZoneEvent_member h hs hv
    cases b <;> cases hm <;> simp [Reply.text?, hget, ConversionRules.speaker]

/-- The `status_updated` member of a zone part reads a truth value as it is. -/
theorem readZoneEvent_statusUpdated {ms : Members} {r : Reply} (h : readZoneEvent (.obj ms) = .ok r)
    {b : Bool} (hv : List.lookup "status_updated" ms = some (.bool b)) : r.flag "status_updated" = b := by
  have hs : (⟨"status_updated", "status_updated", .truth, .bool false⟩ : MemberSpec) ∈ zoneEventSpecs := by
    simp [zoneEventSpecs]
  obtain ⟨m, hm, hget⟩ := readZoneEvent_member h hs hv
  cases hm
  simp [Reply.flag, hget]

/-- One thing an event has a speaker do. -/
inductive EventStep where
  /-- The assignments of a zone part. -/
  | assign (z : String) (part : Reply)
  /-- One status read of a zone. -/
  | readZone (z : String)
  /-- A read of the presets, with the preset the event names. -/
  | readPresets (number : Int)
  /-- A read of the player. -/
  | readPlayer

/-- What a step does. -/
def EventStep.run : EventStep → SpeakerHomeM Unit
  | .assign z part => modifySpeaker (·.modifyZone z (·.applyEvent part))
  | .readZone z => updateZone z
  | .readPresets number => updatePresets number
  | .readPlayer => updatePlayer

/-- The steps of a zone part: its assignments, then a status read when the part says so. -/
def zoneSteps (z : String) (part : Reply) : List EventStep :=
  .assign z part :: if part.flag "status_updated" then [.readZone z] else []

/-- The steps of the player part: a read of the presets when it names a preset, then a read of
the player when its play information was updated. -/
def playerSteps : Option PlayerEvent → List EventStep
  | some p =>
    (if p.presetNumber != 0 then [.readPresets p.presetNumber] else []) ++
      (if p.playInfoUpdated then [.readPlayer] else [])
  | none => []

/-- The steps of an event, in the order they are taken. -/
def eventPlan (e : SpeakerEvent) : List EventStep :=
  e.zones.flatMap (fun zp => zoneSteps zp.1 zp.2) ++ playerSteps e.player

/-- **Processing an event follows its plan.** -/
theorem processEvent_eq_plan (e : SpeakerEvent) : processEvent e = forM (eventPlan e) EventStep.run := by
  unfold processEvent eventPlan
  rw [List.forM_append]
  congr 1
  · -- the zone loop, one part at a time
    generalize e.zones = zs
    induction zs with
    | nil => rfl
    | cons zp zs ih =>
      obtain ⟨z, part⟩ := zp
      rw [List.forIn_cons, List.flatMap_cons, List.forM_append, ← ih]
      cases hf : part.flag "status_updated" <;> simp [zoneSteps, hf, EventStep.run]
  · funext
    cases e.player with
    | none => rfl
    | some p =>
      cases hn : p.presetNumber != 0 <;> cases hu : p.playInfoUpdated <;>
        simp [playerSteps, hn, hu, EventStep.run]

/-! ## Changing one zone -/

section ZoneUpdate

variable {g : String × ZoneState → String × ZoneState} {z : String} {f : ZoneState → ZoneState}

theorem lookup_map_self (hg : ∀ p, g p = if p.1 == z then (p.1, f p.2) else p) :
    ∀ l : List (String × ZoneState), (l.map g).lookup z = (l.lookup z).map f
  | [] => rfl
  | (k, st) :: l => by
    by_cases hk : k = z
    · subst hk
      simp [hg]
    · have hzk : (z == k) = false := by simpa using Ne.symm hk
      simp [hg, List.lookup_cons, hk, hzk, lookup_map_self hg l]

theorem lookup_map_ne (hg : ∀ p, g p = if p.1 == z then (p.1, f p.2) else p) {z' : String}
    (hne : z' ≠ z) : ∀ l : List (String × ZoneState), (l.map g).lookup z' = l.lookup z'
  | [] => rfl
  | (k, st) :: l => by
    by_cases hk : k = z
    · have hzk : (z' == z) = false := by simpa using hne
      simp [hg, List.lookup_cons, hk, hzk, lookup_map_ne hg hne l]
    · simp [hg, List.lookup_cons, hk, lookup_map_ne hg hne l]

theorem map_fst_map_update (hg : ∀ p, g p = if p.1 == z then (p.1, f p.2) else p)
    (l : List (String × ZoneState)) : (l.map g).map (·.1) = l.map (·.1) := by
  rw [List.map_map]
  refine List.map_congr_left fun p _ => ?_
  simp only [Function.comp, hg]
  split <;> rfl

end ZoneUpdate

theorem Device.lookup_touchZone (s : Device) (z : String) :
    (s.touchZone z).state.zones.lookup z = some (s.zone z) := by
  unfold touchZone zone
  split
  · rename_i h
    -- a known zone is found where it is
    obtain ⟨p, hp, hpz⟩ := List.any_eq_true.1 h
    cases hl : s.state.zones.lookup z with
    | some st => rfl
    | none =>
      rw [List.lookup_eq_none_iff] at hl
      have hne : z ≠ p.1 := by simpa using hl p hp
      exact absurd (by simpa using hpz : p.1 = z).symm hne
  · rename_i h
    have hl : s.state.zones.lookup z = none := by
      rw [List.lookup_eq_none_iff]
      intro p hp
      rw [bne_iff_ne]
      rintro rfl
      exact h (List.any_eq_true.2 ⟨p, hp, by simp⟩)
    simp [List.lookup_append, hl]

theorem Device.lookup_modifyZone_self (s : Device) (z : String) (f : ZoneState → ZoneState) :
    (s.modifyZone z f).state.zones.lookup z = some (f (s.zone z)) := by
  unfold modifyZone
  rw [lookup_map_self (fun _ => rfl), lookup_touchZone]
  rfl

theorem Device.lookup_modifyZone_ne (s : Device) {z z' : String} (f : ZoneState → ZoneState) (hne : z' ≠ z) :
    (s.modifyZone z f).state.zones.lookup z' = s.state.zones.lookup z' := by
  unfold modifyZone
  rw [lookup_map_ne (fun _ => rfl) hne]
  unfold touchZone
  split
  · rfl
  · have hz : (z' == z) = false := by simpa using hne
    simp [List.lookup_append, List.lookup_cons, hz]

/-- The zones known after a change: those known before, and the changed zone last when it was
not known. -/
theorem Device.zoneNames_modifyZone (s : Device) (z : String) (f : ZoneState → ZoneState) :
    (s.modifyZone z f).state.zones.map (·.1) =
      if z ∈ s.state.zones.map (·.1) then s.state.zones.map (·.1) else s.state.zones.map (·.1) ++ [z] := by
  unfold modifyZone
  rw [map_fst_map_update (fun _ => rfl)]
  unfold touchZone
  by_cases hz : z ∈ s.state.zones.map (·.1)
  · have hany : s.state.zones.any (·.1 == z) = true := by
      obtain ⟨p, hp, rfl⟩ := List.mem_map.1 hz
      exact List.any_eq_true.2 ⟨p, hp, by simp⟩
    simp [hany, hz]
  · have hany : s.state.zones.any (·.1 == z) = false := by
      rw [Bool.eq_false_iff]
      intro h
      obtain ⟨p, hp, hpz⟩ := List.any_eq_true.1 h
      exact hz (List.mem_map.2 ⟨p, hp, by simpa using hpz⟩)
    simp [hany, hz]

/-- Changing a zone changes nothing of a speaker but its zones. -/
theorem Device.modifyZone_frame (s : Device) (z : String) (f : ZoneState → ZoneState) :
    { s.modifyZone z f with state := { (s.modifyZone z f).state with zones := s.state.zones } } = s := by
  unfold modifyZone touchZone
  split <;> rfl

/-! ## The assignments of a zone part -/

/-- A zone after the assignments of a zone part, as the part's members say them: power on or off
when the part reports `on` or `standby`, mute on or off when it reports `true` or `false`, the
input when it reports one that is not empty, the volume when it reports one other than 0; nothing
else of the zone changes. -/
def ZoneState.assign (z : ZoneState) (r : Reply) : ZoneState :=
  { z with
    power := if r.text? "power" = some powerOn then some true
      else if r.text? "power" = some powerStandby then some false else z.power,
    mute := if r.text? "mute" = some "true" then some true
      else if r.text? "mute" = some "false" then some false else z.mute,
    input := if ((r.text? "input").getD "").isEmpty then z.input else r.text? "input",
    volume := if (r.number "volume").toInt ≠ 0 then r.number "volume" else z.volume }

/-- **A zone part assigns what it reports**, and nothing else. -/
theorem ZoneState.applyEvent_eq_assign (z : ZoneState) (r : Reply) : z.applyEvent r = z.assign r := by
  unfold ZoneState.applyEvent ZoneState.assign
  -- one split per text member read: power, mute and input
  split <;> split <;> split <;> simp_all [powerOn, powerStandby]

/-- Speaker `s'` is speaker `s` with zone `z` holding `st`: the other zones keep what they held, a
zone not known before is added last, and nothing else of the speaker changes. -/
def ZoneChanged (s s' : Device) (z : String) (st : ZoneState) : Prop :=
  s'.state.zones.lookup z = some st ∧
    (∀ z', z' ≠ z → s'.state.zones.lookup z' = s.state.zones.lookup z') ∧
    s'.state.zones.map (·.1) =
      (if z ∈ s.state.zones.map (·.1) then s.state.zones.map (·.1) else s.state.zones.map (·.1) ++ [z]) ∧
    { s' with state := { s'.state with zones := s.state.zones } } = s

theorem Device.modifyZone_changed (s : Device) (z : String) (f : ZoneState → ZoneState) :
    ZoneChanged s (s.modifyZone z f) z (f (s.zone z)) :=
  ⟨s.lookup_modifyZone_self z f, fun _ hne => s.lookup_modifyZone_ne f hne, s.zoneNames_modifyZone z f,
    s.modifyZone_frame z f⟩

/-- The assignments of a zone part send nothing and change the speaker's zone only. -/
theorem assign_run' (w : SpeakerHome) (z : String) (part : Reply) :
    ∃ s', (EventStep.assign z part).run.run' w = (.ok (), { w with speaker := s' }) ∧
      ZoneChanged w.speaker s' z ((w.speaker.zone z).assign part) := by
  refine ⟨w.speaker.modifyZone z (·.applyEvent part), rfl, ?_⟩
  rw [← ZoneState.applyEvent_eq_assign]
  exact w.speaker.modifyZone_changed z _

/-! ## Processing an event -/

/-- **Processing an event read from a packet object.**  Its zone parts are those among `main`,
`zone2`, `zone3`, `zone4`, in that order, whose member in the packet is an object; processing the
event takes the steps of its plan and nothing else: for each zone part its assignments and, when
the part says its status was updated, one status read of the zone; then a read of the presets with
the preset the event names, when it names one, and a read of the player, when its play
information was updated.  A zone part's assignments send nothing and change only its zone, which
they add when the speaker did not know it; they set what the part reports, a truth value sent as
mute counting as `true` or `false`. -/
theorem eventProcessing_law (ms : Members) (e : SpeakerEvent) (h : SpeakerEvent.read (.obj ms) = .ok e) :
    e.zones.map (·.1) = allZones.filter (fun z => ((List.lookup z ms).getD .null).isObj) ∧
    processEvent e = forM (eventPlan e) EventStep.run ∧
    (∀ zp ∈ e.zones, ∀ w : SpeakerHome, ∃ s', (EventStep.assign zp.1 zp.2).run.run' w = (.ok (), { w with speaker := s' }) ∧
      ZoneChanged w.speaker s' zp.1 ((w.speaker.zone zp.1).assign zp.2)) ∧
    (∀ zp ∈ e.zones, ∀ pms, List.lookup zp.1 ms = some (.obj pms) →
      (∀ b, List.lookup "mute" pms = some (.bool b) → zp.2.text? "mute" = some (if b then "true" else "false")) ∧
      (∀ b, List.lookup "status_updated" pms = some (.bool b) → zp.2.flag "status_updated" = b)) := by
  obtain ⟨hnames, hparts⟩ := SpeakerEvent.read_zoneParts h
  refine ⟨hnames, processEvent_eq_plan e, fun zp _ w => assign_run' w zp.1 zp.2, fun zp hzp pms hpms => ?_⟩
  -- the part was read from the object the packet holds for its zone
  have hread : readZoneEvent (.obj pms) = .ok zp.2 := by
    simpa [hpms] using hparts zp hzp
  exact ⟨(readZoneEvent_text hread (.inr (.inl rfl))).2, fun _ hb => readZoneEvent_statusUpdated hread hb⟩

/-- A packet whose main zone reports mute and an updated status: the event visits `main` alone,
reads the mute as `true` and asks for the zone's status. -/
theorem eventProcessing_law_mutedMain :
    let ms : Members := [("device_id", .str "AC44F2851234"),
      ("main", .obj [("mute", .bool true), ("status_updated", .bool true)])]
    ∃ e, SpeakerEvent.read (.obj ms) = .ok e ∧ e.zones.map (·.1) = ["main"] ∧
      processEvent e = forM (eventPlan e) EventStep.run ∧
      ∀ zp ∈ e.zones, zp.2.text? "mute" = some "true" ∧ zp.2.flag "status_updated" = true := by
  intro ms
  obtain ⟨e, he⟩ : ∃ e, SpeakerEvent.read (.obj ms) = .ok e := ⟨_, rfl⟩
  obtain ⟨hnames, hplan, -, hdec⟩ := eventProcessing_law ms e he
  have hmain : e.zones.map (·.1) = ["main"] := by
    rw [hnames]
    rfl
  refine ⟨e, he, hmain, hplan, fun zp hzp => ?_⟩
  have hz : zp.1 = "main" := by
    have hmem : zp.1 ∈ e.zones.map (·.1) := List.mem_map_of_mem hzp
    simpa [hmain] using hmem
  obtain ⟨hmute, hstatus⟩ := hdec zp hzp _ (by rw [hz]; rfl)
  exact ⟨hmute true rfl, hstatus true rfl⟩

/-- A packet whose `zone4` part is an empty object reports nothing, yet processing it adds `zone4`
to a speaker that knew no zone, and sends nothing. -/
theorem processEvent_emptyZonePart :
    let doc : Value := .obj [("device_id", .str "AC44F2851234"), ("zone4", .obj [])]
    ∃ e, SpeakerEvent.read doc = .ok e ∧ ∀ w : SpeakerHome, w.speaker.state.zones = [] →
      (processEvent e).run' w =
        (.ok (), { w with speaker := { w.speaker with state := { w.speaker.state with zones := [("zone4", {})] } } }) := by
  intro doc
  -- the empty part reads as every member at its default
  let part : Reply := ⟨zoneEventSpecs.map fun s => (s.name, s.default)⟩
  refine ⟨{ deviceId := "AC44F2851234", zones := [("zone4", part)] }, rfl, fun w hw => ?_⟩
  have hflag : part.flag "status_updated" = false := rfl
  have hzone : ({} : ZoneState).applyEvent part = {} := rfl
  rw [processEvent_eq_plan]
  simp only [eventPlan, zoneSteps, hflag, List.flatMap_cons, List.flatMap_nil, playerSteps,
    List.append_nil, List.forM_cons, List.forM_nil, Bool.false_eq_true, if_false]
  -- the one step: the part's assignments, on a zone the speaker did not know
  change (modifySpeaker (·.modifyZone "zone4" (·.applyEvent part)) >>= fun _ => pure ()).run' w = _
  simp only [Exec.run'_bind, modifySpeaker, Exec.run'_modify, Exec.run'_pure]
  unfold Device.modifyZone Device.touchZone
  simp [hw, hzone]

end ConnectedHome.Speaker
