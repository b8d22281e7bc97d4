import ConnectedHome.Proofs.StatusAggregate
import ConnectedHome.Proofs.ChannelDiscovery
/-!
# ChannelFilter — processing a report for some channels only

`processReport r t (some ks)` writes the values of the channels whose key is in `ks` and folds every
field into the aggregate; `processReport r t none` writes them all.  The filter only restricts:

- `processReport_filtered`: where the unfiltered run succeeds, the filtered one succeeds too, with
  the unfiltered values whose key is kept, in the same order, and the same aggregate;
- `mem_keys_discoverChannels`: the keys discovered in a report are those of its feeding fields, so
  filtering by them keeps every value (`processReport_discovered`);
- `aggregate_eq_of_readings`: the aggregate depends only on which (definition, value) pairs the
  feeding fields carry, and `processReport_ok_of_fields`: success only on which fields the report
  has, not on their order, blocks or repetitions;
- `channelFilter_law`: all of these at once, for a report processed for all channels.
-/
namespace ConnectedHome.Vehicle

/-! ## One field -/

/-- Whether a value of the channel of key `k` is written, with `channels` to keep. -/
def keepsKey (channels : Option (List String)) (k : String) : Bool :=
  match channels with
  | none => true
  | some ks => ks.contains k

/-- The field `f` feeds the channel `c`: the table defines its id with `c`, which has a channel. -/
def Feeds (t : ChannelTable) (f : StatusField) (c : Channel) : Prop :=
  t.find f.id = some c ∧ c.channel.isEmpty = false

theorem not_feeds_of_find_none {t : ChannelTable} {f : StatusField} (hc : t.find f.id = none) (c : Channel) :
    ¬Feeds t f c := fun h => by
  rw [h.1] at hc
  cases hc

theorem not_feeds_of_isEmpty {t : ChannelTable} {f : StatusField} {c : Channel} (hc : t.find f.id = some c)
    (he : c.channel.isEmpty = true) (c' : Channel) : ¬Feeds t f c' := fun h => by
  obtain ⟨hfind, hne⟩ := h
  rw [hfind, Option.some.injEq] at hc
  subst hc
  rw [he] at hne
  cases hne

/-- A field feeds at most one channel, the one its id is defined with. -/
theorem feeds_iff {t : ChannelTable} {f : StatusField} {c : Channel} (hc : t.find f.id = some c)
    (he : c.channel.isEmpty = false) (c' : Channel) : Feeds t f c' ↔ c' = c :=
  ⟨fun h => by rw [h.1, Option.some.injEq] at hc; exact hc, fun h => h ▸ ⟨hc, he⟩⟩

/-- The step `processReport` takes on one field of its report. -/
def processField (t : ChannelTable) (channels : Option (List String)) (u : StatusUpdate)
    (bf : String × StatusField) : Except Fault StatusUpdate := do
  match t.find bf.2.id with
  | none => return u
  | some c =>
    if c.channel.isEmpty then return u
    let values ← if keepsKey channels c.key then do
        let v ← channelValue c bf.2
        pure (u.values.put c.key v)
      else pure u.values
    let agg ← u.aggregate.update c bf.2
    return { values := values, aggregate := agg }

theorem processReport_eq_foldlM (r : StatusReport) (t : ChannelTable) (chs : Option (List String)) :
    processReport r t chs = r.fields.foldlM (processField t chs) {} := rfl

/-- **What one field does**: a field that feeds no channel is skipped; one that feeds `c` is folded
into the aggregate, and its value is computed and written under the channel's key when that key
is kept. -/
theorem processField_eq_ok {t : ChannelTable} {chs : Option (List String)} {u u' : StatusUpdate}
    {bf : String × StatusField} :
    processField t chs u bf = .ok u' ↔
      (u' = u ∧ ∀ c, ¬Feeds t bf.2 c) ∨
      ∃ c, Feeds t bf.2 c ∧ u.aggregate.update c bf.2 = .ok u'.aggregate ∧
        ((keepsKey chs c.key = true ∧ ∃ x, channelValue c bf.2 = .ok x ∧ u'.values = u.values.put c.key x) ∨
          (keepsKey chs c.key = false ∧ u'.values = u.values)) := by
  -- a field that feeds no channel is skipped
  have skip (hnf : ∀ c, ¬Feeds t bf.2 c) (P : Channel → Prop) : (pure u : Except Fault StatusUpdate) = .ok u' ↔
      (u' = u ∧ ∀ c, ¬Feeds t bf.2 c) ∨ ∃ c, Feeds t bf.2 c ∧ P c := by
    simp only [hnf, false_and, exists_false, or_false, not_false_eq_true, implies_true, and_true]
    exact ⟨fun h => (Except.ok.inj h).symm, fun h => h ▸ rfl⟩
  unfold processField
  cases hc : t.find bf.2.id with
  | none => exact skip (not_feeds_of_find_none hc) _
  | some c =>
    by_cases he : c.channel.isEmpty = true
    · simp only [he, if_true]
      exact skip (not_feeds_of_isEmpty hc he) _
    · -- the field feeds `c` and no other channel
      have hF := feeds_iff hc (Bool.eq_false_iff.2 he)
      have hnot : ¬∀ c', ¬Feeds t bf.2 c' := fun h => h c ((hF c).2 rfl)
      simp only [he, Bool.false_eq_true, if_false, hnot, and_false, false_or]
      simp only [hF, exists_eq_left]
      -- the value is written or not, and the aggregate folded either way
      cases hk : keepsKey chs c.key
      · simp only [if_false, Bool.false_eq_true, false_and, true_and, false_or]
        constructor
        · intro h
          obtain ⟨vs, hvs, h⟩ := bind_eq_ok.1 h
          obtain ⟨agg, hagg, h⟩ := bind_eq_ok.1 h
          cases hvs
          cases h
          exact ⟨hagg, rfl⟩
        · rintro ⟨hagg, hv⟩
          simp only [hagg, ← hv, bind, Except.bind, pure, Except.pure]
      · simp only [if_true, true_and, Bool.true_eq_false, false_and, or_false]
        constructor
        · intro h
          obtain ⟨x, hx, h⟩ := bind_eq_ok.1 h
          obtain ⟨vs, hvs, h⟩ := bind_eq_ok.1 h
          obtain ⟨agg, hagg, h⟩ := bind_eq_ok.1 h
          cases hvs
          cases h
          exact ⟨hagg, x, hx, rfl⟩
        · rintro ⟨hagg, x, hx, hv⟩
          simp only [hagg, hx, ← hv, bind, Except.bind, pure, Except.pure]

/-- Writing a value and then keeping the keys that pass `p` is keeping them first and writing the
value only when its key passes. -/
theorem ChannelValues.filter_put (vs : ChannelValues) (k : String) (v : Value) (p : String → Bool) :
    (vs.put k v).filter (fun m => p m.1) =
      if p k then ChannelValues.put (vs.filter fun m => p m.1) k v else vs.filter fun m => p m.1 := by
  unfold ChannelValues.put Members.put
  -- writing keeps every key where it was, so it commutes with the filter
  have hkey : ∀ m : String × Value, p (if m.1 == k then (k, v) else m).1 = p m.1 := by
    intro m
    by_cases hm : m.1 = k <;> simp [hm]
  by_cases hany : vs.any (fun m => m.1 == k) = true
  · rw [if_pos hany, List.filter_map]
    have hf : (vs.filter ((fun m => p m.1) ∘ fun m => if m.1 == k then (k, v) else m)) =
        vs.filter fun m => p m.1 := List.filter_congr fun m _ => hkey m
    rw [hf]
    by_cases hp : p k = true
    · -- the written key passes and is among those kept
      have hany' : (vs.filter fun m => p m.1).any (fun m => m.1 == k) = true := by
        obtain ⟨m, hm, hmk⟩ := List.any_eq_true.1 hany
        have hmk' : m.1 = k := by simpa using hmk
        exact List.any_eq_true.2 ⟨m, List.mem_filter.2 ⟨hm, by rw [hmk']; exact hp⟩, hmk⟩
      rw [if_pos hp, if_pos hany']
    · -- no kept member has the written key
      rw [if_neg hp]
      refine (List.map_congr_left fun m hm => ?_).trans (List.map_id _)
      have hpm : p m.1 = true := (List.mem_filter.1 hm).2
      have hmk : ¬m.1 = k := fun h => hp (h ▸ hpm)
      simp [hmk]
  · rw [if_neg hany, List.filter_append]
    have hany' : (vs.filter fun m => p m.1).any (fun m => m.1 == k) = false := by
      rw [Bool.eq_false_iff]
      intro h
      obtain ⟨m, hm, hmk⟩ := List.any_eq_true.1 h
      exact hany (List.any_eq_true.2 ⟨m, (List.mem_filter.1 hm).1, hmk⟩)
    by_cases hp : p k = true
    · simp [hp, hany']
    · simp [hp]

/-- **One field under a filter**: where the unfiltered step succeeds from `u`, the step filtered by
`ks` succeeds from the restriction of `u` to `ks`, and reaches the restriction of the unfiltered
result. -/
theorem processField_filtered {t : ChannelTable} {ks : List String} {bf : String × StatusField}
    {u u' w : StatusUpdate} (h : processField t none u bf = .ok u')
    (hv : w.values = u.values.filter fun m => ks.contains m.1) (ha : w.aggregate = u.aggregate) :
    ∃ w', processField t (some ks) w bf = .ok w' ∧
      w'.values = u'.values.filter (fun m => ks.contains m.1) ∧ w'.aggregate = u'.aggregate := by
  rcases processField_eq_ok.1 h with ⟨rfl, hnf⟩ | ⟨c, hc, hagg, ⟨-, x, hx, hvx⟩ | ⟨hk, -⟩⟩
  · -- a field that feeds no channel is skipped by both
    exact ⟨w, processField_eq_ok.2 (.inl ⟨rfl, hnf⟩), hv, ha⟩
  · -- the value is written in both or in neither, as its key is kept
    rw [← ha] at hagg
    by_cases hk : ks.contains c.key = true
    · refine ⟨⟨w.values.put c.key x, u'.aggregate⟩, processField_eq_ok.2 (.inr ⟨c, hc, hagg, .inl ⟨hk, x, hx, rfl⟩⟩), ?_, rfl⟩
      rw [hvx, ChannelValues.filter_put, if_pos hk, hv]
    · refine ⟨⟨w.values, u'.aggregate⟩, processField_eq_ok.2 (.inr ⟨c, hc, hagg, .inr ⟨Bool.eq_false_iff.2 hk, rfl⟩⟩), ?_, rfl⟩
      rw [hvx, ChannelValues.filter_put, if_neg hk, hv]
  · cases hk

/-! ## A whole report -/

/-- The filtered run follows the unfiltered one field by field, holding the restriction of its
values and its aggregate. -/
theorem foldlM_processField_filtered (t : ChannelTable) (ks : List String) :
    ∀ (l : List (String × StatusField)) (u u' w : StatusUpdate), l.foldlM (processField t none) u = .ok u' →
      w.values = u.values.filter (fun m => ks.contains m.1) → w.aggregate = u.aggregate →
      ∃ w', l.foldlM (processField t (some ks)) w = .ok w' ∧
        w'.values = u'.values.filter (fun m => ks.contains m.1) ∧ w'.aggregate = u'.aggregate
  | [], u, u', w, h, hv, ha => by
    cases h
    exact ⟨w, rfl, hv, ha⟩
  | bf :: l, u, u', w, h, hv, ha => by
    rw [List.foldlM_cons] at h ⊢
    obtain ⟨u1, h1, h2⟩ := bind_eq_ok.1 h
    obtain ⟨w1, hw1, hv1, ha1⟩ := processField_filtered h1 hv ha
    obtain ⟨w', hw', hv', ha'⟩ := foldlM_processField_filtered t ks l u1 u' w1 h2 hv1 ha1
    refine ⟨w', ?_, hv', ha'⟩
    rw [hw1]
    exact hw'

/-- **Filtering only restricts**: where a report is processed for all channels, it is processed for
the channels `ks` too, with the values of those channels in the same order and the same aggregate. -/
theorem processReport_filtered {r : StatusReport} {t : ChannelTable} {u : StatusUpdate}
    (h : processReport r t none = .ok u) (ks : List String) :
    ∃ w, processReport r t (some ks) = .ok w ∧
      w.values = u.values.filter (fun m => ks.contains m.1) ∧ w.aggregate = u.aggregate := by
  rw [processReport_eq_foldlM] at h ⊢
  exact foldlM_processField_filtered t ks r.fields {} u {} h rfl rfl

/-! ## The discovered channels -/

/-- The field `f` feeds the channel of key `k`: the table defines its id with a channel of that key. -/
def FeedsKey (t : ChannelTable) (f : StatusField) (k : String) : Prop :=
  ∃ c, Feeds t f c ∧ c.key = k

/-- The step `discoverChannels` takes on one field of its report. -/
def discoverField (t : ChannelTable) (acc : ChannelMap) (bf : String × StatusField) : ChannelMap :=
  match t.find bf.2.id with
  | some c => if !c.channel.isEmpty && !acc.any (·.1 == c.key) then acc ++ [(c.key, c)] else acc
  | none => acc

theorem discoverChannels_eq_foldl (r : StatusReport) (t : ChannelTable) :
    discoverChannels r t = r.fields.foldl (discoverField t) [] := rfl

/-- Discovering a field adds the key it feeds, if it feeds one. -/
theorem mem_keys_discoverField {t : ChannelTable} {acc : ChannelMap} {bf : String × StatusField} {k : String} :
    k ∈ (discoverField t acc bf).map (·.1) ↔ k ∈ acc.map (·.1) ∨ FeedsKey t bf.2 k := by
  unfold discoverField FeedsKey
  cases hc : t.find bf.2.id with
  | none => simp [not_feeds_of_find_none hc]
  | some c =>
    by_cases he : c.channel.isEmpty = true
    · simp [he, not_feeds_of_isEmpty hc he]
    · have he' : c.channel.isEmpty = false := Bool.eq_false_iff.2 he
      simp only [feeds_iff hc he', exists_eq_left]
      -- a key already discovered is not added twice, and is among the keys already
      by_cases hany : acc.any (·.1 == c.key) = true
      · obtain ⟨m, hm, hmk⟩ := List.any_eq_true.1 hany
        have hmk' : m.1 = c.key := by simpa using hmk
        simp only [hany, he', Bool.not_true, Bool.not_false, Bool.and_false, Bool.false_eq_true, if_false]
        exact ⟨Or.inl, fun h => h.elim id fun hk => hk ▸ List.mem_map.2 ⟨m, hm, hmk'⟩⟩
      · simp [hany, he', eq_comm]

/-- **The keys a report's discovery finds are the keys its fields feed.** -/
theorem mem_keys_discoverChannels {r : StatusReport} {t : ChannelTable} {k : String} :
    k ∈ (discoverChannels r t).map (·.1) ↔ ∃ bf ∈ r.fields, FeedsKey t bf.2 k := by
  rw [discoverChannels_eq_foldl]
  -- by induction on the fields, from any channels discovered before them
  suffices h : ∀ (l : List (String × StatusField)) (acc : ChannelMap),
      k ∈ (l.foldl (discoverField t) acc).map (·.1) ↔ k ∈ acc.map (·.1) ∨ ∃ bf ∈ l, FeedsKey t bf.2 k by
    simpa using h r.fields []
  intro l
  induction l with
  | nil => simp
  | cons bf l ih =>
    intro acc
    rw [List.foldl_cons, ih, mem_keys_discoverField]
    simp only [List.mem_cons, or_and_right, exists_or, exists_eq_left, or_assoc]

/-- Processing a field writes at most the key it feeds. -/
theorem processField_keys {t : ChannelTable} {chs : Option (List String)} {u u' : StatusUpdate}
    {bf : String × StatusField} {k : String} (h : processField t chs u bf = .ok u')
    (hk : k ∈ u'.values.map (·.1)) : k ∈ u.values.map (·.1) ∨ FeedsKey t bf.2 k := by
  rcases processField_eq_ok.1 h with ⟨rfl, -⟩ | ⟨c, hc, -, ⟨-, x, -, hv⟩ | ⟨-, hv⟩⟩
  · exact .inl hk
  · rw [hv] at hk
    rcases ChannelValues.mem_keys_put hk with hk | rfl
    · exact .inl hk
    · exact .inr ⟨c, hc, rfl⟩
  · rw [hv] at hk
    exact .inl hk

/-- **Every key a processed report has a value for is fed by one of its fields.** -/
theorem processReport_keys {r : StatusReport} {t : ChannelTable} {chs : Option (List String)} {u : StatusUpdate}
    (h : processReport r t chs = .ok u) {k : String} (hk : k ∈ u.values.map (·.1)) :
    ∃ bf ∈ r.fields, FeedsKey t bf.2 k := by
  rw [processReport_eq_foldlM] at h
  -- by induction on the fields: a key is in the values before them or fed by one of them
  suffices hrun : ∀ (l : List (String × StatusField)) (u0 u1 : StatusUpdate),
      l.foldlM (processField t chs) u0 = .ok u1 → k ∈ u1.values.map (·.1) →
        k ∈ u0.values.map (·.1) ∨ ∃ bf ∈ l, FeedsKey t bf.2 k by
    simpa using hrun r.fields {} u h hk
  intro l
  induction l with
  | nil =>
    intro u0 u1 h1 hk1
    cases h1
    exact .inl hk1
  | cons bf l ih =>
    intro u0 u1 h1 hk1
    rw [List.foldlM_cons] at h1
    obtain ⟨u2, h2, h3⟩ := bind_eq_ok.1 h1
    rcases ih u2 u1 h3 hk1 with hk2 | ⟨bf', hbf', hfeeds⟩
    · rcases processField_keys h2 hk2 with hk0 | hfeeds
      · exact .inl hk0
      · exact .inr ⟨bf, List.mem_cons_self .., hfeeds⟩
    · exact .inr ⟨bf', List.mem_cons_of_mem _ hbf', hfeeds⟩

/-- **Processing a report for the channels discovered in it keeps every value.** -/
theorem processReport_discovered {r : StatusReport} {t : ChannelTable} {u : StatusUpdate}
    (h : processReport r t none = .ok u) :
    ∃ w, processReport r t (some ((discoverChannels r t).map (·.1))) = .ok w ∧
      w.values = u.values ∧ w.aggregate = u.aggregate := by
  obtain ⟨w, hw, hv, ha⟩ := processReport_filtered h ((discoverChannels r t).map (·.1))
  refine ⟨w, hw, ?_, ha⟩
  rw [hv, List.filter_eq_self]
  intro m hm
  rw [List.contains_iff_mem, mem_keys_discoverChannels]
  exact processReport_keys h (List.mem_map.2 ⟨m, hm, rfl⟩)

/-! ## The aggregate -/

namespace Aggregate

/-- Whether folding a field raises a fault does not depend on the aggregate it is folded into: only
the AdBlue check raises one, from the field's value alone. -/
theorem step_snd (a a' : Aggregate) (c : Channel) (f : StatusField) : (a.step c f).2 = (a'.step c f).2 := by
  unfold step
  cases f.value? with
  | none => rfl
  | some v =>
    by_cases he : v.isEmpty = true
    · simp only [he, if_true]
    · simp only [he, Bool.false_eq_true, if_false]
      cases hAD : c.symbolicName.contains "AD_BLUE_RANGE"
      · simp only [Bool.false_eq_true, if_false, pure, Except.pure]
      · simp only [if_true]
        cases hr : Number.readFloat v with
        | error e =>
          cases hcr : e.isConversionRefusal <;> simp only [hcr, Bool.false_eq_true, if_false, if_true, pure,
            Except.pure, throw, throwThe, MonadExceptOf.throw]
        | ok x =>
          cases hi : Number.floatToInt x with
          | error e => cases e <;> simp only [hi, pure, Except.pure, throw, throwThe, MonadExceptOf.throw]
          | ok n => simp only [hi, pure, Except.pure]

/-- A field that folds into one aggregate folds into every other. -/
theorem update_ok_of_ok {a b : Aggregate} {c : Channel} {f : StatusField} (h : a.update c f = .ok b)
    (a' : Aggregate) : ∃ b', a'.update c f = .ok b' := by
  rw [update_eq_ok] at h
  refine ⟨(a'.step c f).1, update_eq_ok.2 ?_⟩
  have hsnd : (a'.step c f).2 = none := by rw [step_snd a' a, h]
  rw [← hsnd]

/-- The readings of fields: their definitions with their values, which is what a fold reads. -/
def readings (F : List (Channel × StatusField)) : List (Channel × Option String) :=
  F.map fun cf => (cf.1, cf.2.value?)

/-- Every field passes a test exactly when every reading does. -/
theorem forall_passes_iff (test : Channel → String → Bool) (F : List (Channel × StatusField)) :
    (∀ cf ∈ F, Passes test cf) ↔ ∀ p ∈ readings F, ∀ v, p.2 = some v → v ≠ "" → test p.1 v = true := by
  simp only [readings, List.forall_mem_map]
  rfl

/-- A flag that each field clears when it fails a test ends the same over fields of the same
readings. -/
theorem flag_eq_of_readings (flag : Aggregate → Bool) (test : Channel → String → Bool)
    (hflag : ∀ a c v, flag (a.withField c v) = (flag a && test c v)) {F F' : List (Channel × StatusField)}
    {b b' : Aggregate} (hb : F.foldlM (fun (a : Aggregate) (cf : Channel × StatusField) => a.update cf.1 cf.2) {} = .ok b)
    (hb' : F'.foldlM (fun (a : Aggregate) (cf : Channel × StatusField) => a.update cf.1 cf.2) {} = .ok b')
    (hp : ∀ p, p ∈ readings F ↔ p ∈ readings F') : flag b = flag b' := by
  apply Bool.eq_iff_iff.2
  rw [foldlM_update_flag flag test hflag F {} b hb, foldlM_update_flag flag test hflag F' {} b' hb',
    forall_passes_iff, forall_passes_iff]
  exact and_congr_right fun _ => forall_congr' fun p => imp_congr_left (hp p)

/-- **The aggregate is fixed by the readings it is folded from**: folds from the fresh aggregate over
fields with the same readings, in any order and repeated any number of times, end alike. -/
theorem foldlM_update_eq_of_readings {F F' : List (Channel × StatusField)} {b b' : Aggregate}
    (hb : F.foldlM (fun (a : Aggregate) (cf : Channel × StatusField) => a.update cf.1 cf.2) {} = .ok b)
    (hb' : F'.foldlM (fun (a : Aggregate) (cf : Channel × StatusField) => a.update cf.1 cf.2) {} = .ok b')
    (hp : ∀ p, p ∈ readings F ↔ p ∈ readings F') : b = b' := by
  -- each of the four flags is one that its fields clear
  have h1 := flag_eq_of_readings (·.vehicleLocked) lockTest (fun _ _ _ => rfl) hb hb' hp
  have h2 := flag_eq_of_readings (fun a => !a.maintenanceRequired)
    (fun c v => !alarmRaised c v && !adBlueLow c v)
    (fun a c v => by simp only [withField, Bool.not_or, Bool.and_assoc]) hb hb' hp
  have h3 := flag_eq_of_readings (·.tiresOk) tireTest (fun _ _ _ => rfl) hb hb' hp
  have h4 := flag_eq_of_readings (·.windowsClosed) windowTest (fun _ _ _ => rfl) hb hb' hp
  cases b
  cases b'
  simp only [Bool.not_inj_iff] at h1 h2 h3 h4
  rw [h1, h2, h3, h4]

end Aggregate

/-! ## What the aggregate and success depend on -/

/-- A feeding field of a report is one of its fields, with the channel it feeds. -/
theorem mem_feedingFields_iff {r : StatusReport} {t : ChannelTable} {cf : Channel × StatusField} :
    cf ∈ feedingFields r t ↔ cf.2 ∈ r.fields.map (·.2) ∧ Feeds t cf.2 cf.1 := by
  obtain ⟨c, f⟩ := cf
  simp only [feedingFields, List.mem_filterMap, List.mem_map, Option.bind_eq_some_iff, Feeds]
  constructor
  · rintro ⟨bf, hbf, c', hc', hsel⟩
    by_cases he : c'.channel.isEmpty = true
    · simp [he] at hsel
    · simp only [he, Bool.false_eq_true, if_false, Option.some.injEq, Prod.mk.injEq] at hsel
      obtain ⟨rfl, rfl⟩ := hsel
      exact ⟨⟨bf, hbf, rfl⟩, hc', Bool.eq_false_iff.2 he⟩
  · rintro ⟨⟨bf, hbf, rfl⟩, hc, he⟩
    exact ⟨bf, hbf, c, hc, by simp [he]⟩

/-- **The aggregate of a report depends only on the readings of its feeding fields**: on which
definitions it reports with which values, not on their order, blocks or repetitions, nor on the
channels whose values are kept. -/
theorem aggregate_eq_of_readings {r r' : StatusReport} {t : ChannelTable} {chs chs' : Option (List String)}
    {u u' : StatusUpdate} (h : processReport r t chs = .ok u) (h' : processReport r' t chs' = .ok u')
    (hp : ∀ p, p ∈ Aggregate.readings (feedingFields r t) ↔ p ∈ Aggregate.readings (feedingFields r' t)) :
    u.aggregate = u'.aggregate :=
  Aggregate.foldlM_update_eq_of_readings (processReport_aggregate h) (processReport_aggregate h') hp

/-- A field that can be processed: where it feeds a channel, its value can be computed and it folds
into every aggregate. -/
def Processable (t : ChannelTable) (f : StatusField) : Prop :=
  ∀ c, Feeds t f c → (∃ x, channelValue c f = .ok x) ∧ ∀ a : Aggregate, ∃ b, a.update c f = .ok b

/-- A field processed for all channels can be processed. -/
theorem processable_of_processField {t : ChannelTable} {u u' : StatusUpdate} {bf : String × StatusField}
    (h : processField t none u bf = .ok u') : Processable t bf.2 := by
  intro c hc
  rcases processField_eq_ok.1 h with ⟨-, hnf⟩ | ⟨c', hc', hagg, ⟨-, x, hx, -⟩ | ⟨hk, -⟩⟩
  · exact absurd hc (hnf c)
  · -- the field feeds one channel only
    obtain rfl := (feeds_iff hc'.1 hc'.2 c).1 hc
    exact ⟨⟨x, hx⟩, Aggregate.update_ok_of_ok hagg⟩
  · cases hk

/-- A field that can be processed is processed from every update. -/
theorem processField_ok_of_processable {t : ChannelTable} {chs : Option (List String)} {bf : String × StatusField}
    (hp : Processable t bf.2) (u : StatusUpdate) : ∃ u', processField t chs u bf = .ok u' := by
  by_cases hf : ∃ c, Feeds t bf.2 c
  · obtain ⟨c, hc⟩ := hf
    obtain ⟨⟨x, hx⟩, hagg⟩ := hp c hc
    obtain ⟨b, hb⟩ := hagg u.aggregate
    cases hk : keepsKey chs c.key
    · exact ⟨⟨u.values, b⟩, processField_eq_ok.2 (.inr ⟨c, hc, hb, .inr ⟨hk, rfl⟩⟩)⟩
    · exact ⟨⟨u.values.put c.key x, b⟩, processField_eq_ok.2 (.inr ⟨c, hc, hb, .inl ⟨hk, x, hx, rfl⟩⟩)⟩
  · exact ⟨u, processField_eq_ok.2 (.inl ⟨rfl, fun c hc => hf ⟨c, hc⟩⟩)⟩

/-- Every field of a run for all channels that succeeds can be processed. -/
theorem processable_of_foldlM {t : ChannelTable} :
    ∀ (l : List (String × StatusField)) (u u' : StatusUpdate), l.foldlM (processField t none) u = .ok u' →
      ∀ bf ∈ l, Processable t bf.2
  | [], _, _, _ => fun _ h => nomatch h
  | bf :: l, u, u', h => by
    rw [List.foldlM_cons] at h
    obtain ⟨u1, h1, h2⟩ := bind_eq_ok.1 h
    intro bf' hbf'
    rcases List.mem_cons.1 hbf' with rfl | hbf'
    · exact processable_of_processField h1
    · exact processable_of_foldlM l u1 u' h2 bf' hbf'

/-- A run over fields that can all be processed succeeds. -/
theorem foldlM_ok_of_processable {t : ChannelTable} {chs : Option (List String)} :
    ∀ (l : List (String × StatusField)) (u : StatusUpdate), (∀ bf ∈ l, Processable t bf.2) →
      ∃ u', l.foldlM (processField t chs) u = .ok u'
  | [], u, _ => ⟨u, rfl⟩
  | bf :: l, u, hp => by
    obtain ⟨u1, h1⟩ : ∃ u1, processField t chs u bf = .ok u1 :=
      processField_ok_of_processable (hp bf (List.mem_cons_self ..)) u
    obtain ⟨u', h2⟩ := foldlM_ok_of_processable l u1 fun bf' hbf' => hp bf' (List.mem_cons_of_mem _ hbf')
    refine ⟨u', ?_⟩
    rw [List.foldlM_cons, h1]
    exact h2

/-- **Whether a report is processed depends only on which fields it has**: a report whose fields
are among those of a report processed for all channels is processed too. -/
theorem processReport_ok_of_fields {r r' : StatusReport} {t : ChannelTable} {u : StatusUpdate}
    (h : processReport r t none = .ok u) (hf : ∀ f ∈ r'.fields.map (·.2), f ∈ r.fields.map (·.2))
    (chs : Option (List String)) : ∃ u', processReport r' t chs = .ok u' := by
  rw [processReport_eq_foldlM] at h ⊢
  have hp := processable_of_foldlM r.fields {} u h
  refine foldlM_ok_of_processable r'.fields {} fun bf hbf => ?_
  obtain ⟨bf0, hbf0, he⟩ := List.mem_map.1 (hf bf.2 (List.mem_map.2 ⟨bf, hbf, rfl⟩))
  exact he ▸ hp bf0 hbf0

/-! ## Processing for some channels -/

/-- **Processing a report for some channels only restricts processing it for all.**  Where a report
is processed for all channels: it is processed for every list of keys, with the values of those keys
in the same order and the same aggregate, and for the keys discovered in it with every value; every
processing of a report whose feeding fields carry the same readings has the same aggregate; and a
report with the same fields, in any order, blocks and repetitions, is processed with the same
aggregate. -/
theorem channelFilter_law (r : StatusReport) (t : ChannelTable) (u : StatusUpdate)
    (h : processReport r t none = .ok u) :
    (∀ ks : List String, ∃ w, processReport r t (some ks) = .ok w ∧
      w.values = u.values.filter (fun m => ks.contains m.1) ∧ w.aggregate = u.aggregate) ∧
    (∃ w, processReport r t (some ((discoverChannels r t).map (·.1))) = .ok w ∧
      w.values = u.values ∧ w.aggregate = u.aggregate) ∧
    (∀ r' chs w, processReport r' t chs = .ok w →
      (∀ p, p ∈ Aggregate.readings (feedingFields r' t) ↔ p ∈ Aggregate.readings (feedingFields r t)) →
        w.aggregate = u.aggregate) ∧
    (∀ r' : StatusReport, (∀ f, f ∈ r'.fields.map (·.2) ↔ f ∈ r.fields.map (·.2)) →
      ∃ w, processReport r' t none = .ok w ∧ w.aggregate = u.aggregate) := by
  refine ⟨processReport_filtered h, processReport_discovered h,
    fun r' chs w hw hp => aggregate_eq_of_readings hw h hp, fun r' hf => ?_⟩
  obtain ⟨w, hw⟩ := processReport_ok_of_fields h (fun f hf' => (hf f).1 hf') none
  refine ⟨w, hw, aggregate_eq_of_readings hw h fun p => ?_⟩
  -- the same fields feed the same channels, so they carry the same readings
  have hfeed : ∀ cf, cf ∈ feedingFields r' t ↔ cf ∈ feedingFields r t := fun cf => by
    rw [mem_feedingFields_iff, mem_feedingFields_iff, hf]
  simp only [Aggregate.readings, List.mem_map, hfeed]

/-- The report of a locked door, processed with the built-in table for all channels, and what
processing it for some channels gives. -/
theorem channelFilter_law_lockedDoor :
    let r := frontLockReport "2"
    let t := ChannelTable.builtIn
    ∃ u, processReport r t none = .ok u ∧
      (∀ ks : List String, ∃ w, processReport r t (some ks) = .ok w ∧
        w.values = u.values.filter (fun m => ks.contains m.1) ∧ w.aggregate = u.aggregate) ∧
      (∃ w, processReport r t (some ((discoverChannels r t).map (·.1))) = .ok w ∧
        w.values = u.values ∧ w.aggregate = u.aggregate) ∧
      (∀ r' chs w, processReport r' t chs = .ok w →
        (∀ p, p ∈ Aggregate.readings (feedingFields r' t) ↔ p ∈ Aggregate.readings (feedingFields r t)) →
          w.aggregate = u.aggregate) ∧
      (∀ r' : StatusReport, (∀ f, f ∈ r'.fields.map (·.2) ↔ f ∈ r.fields.map (·.2)) →
        ∃ w, processReport r' t none = .ok w ∧ w.aggregate = u.aggregate) := by
  obtain ⟨c, hfind, hsym, hchan, hkind⟩ := frontLock_find
  have hs : switchState c (.str "2") = .ok (some true) := by
    rw [switchState_on, frontLock_onAt hsym]
    exact ⟨by decide, by decide⟩
  have hu := frontLockReport_processed "2" hfind hchan hkind hs (frontLock_update hsym (by decide))
  exact ⟨_, hu, channelFilter_law _ _ _ hu⟩

end ConnectedHome.Vehicle
