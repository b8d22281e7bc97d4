import Mathlib.Logic.Relation
import ConnectedHome.Proofs.HubEntries
import ConnectedHome.Proofs.Triples
import ConnectedHome.Hub.FlowRun
/-!
# EntrySettings — runtime data that follows its entry's settings

An entry's settings are read from its options, else from its data, else from a default
(`ConfigEntry.setting`).  Setting an entry up reads them once; afterwards every change of the
entry that changes something is told to the entry's options listener, once per registration,
which reads them again.  Two changes are told: new options (`updateOptions`) and new data from a
reauthentication (`updateReloadAndAbort`).

- `Registry.find?_update`, `Registry.find?_update_unchanged`: replacing an entry's options changes
  what its id finds and no other, and nothing when the new options equal the old;
- `setupEntry_establishes`: an entry set up successfully is loaded with what the integration's
  setup left for it;
- `notifyOptionsListeners_law`: the listener runs once per registration, so a registered listener
  has run on the changed entry when the change is told;
- `Follows`: the invariant of one entry: it exists, its listener is registered and its runtime data
  is related to it by `S`; `EntryUpdate.follows_run`: when the listener restores `S` for every
  valid entry (`ListenerRestores`), every run of changes to valid entries keeps the invariant.
-/
namespace ConnectedHome
namespace Hub

open Exec

theorem run'_map {σ α β : Type} (f : α → β) (x : Exec σ α) (s : σ) :
    (f <$> x).run' s = match x.run' s with
      | (.ok a, s') => (.ok (f a), s')
      | (.error e, s') => (.error e, s') := by
  rw [map_eq_pure_bind, run'_bind]
  rcases x.run' s with ⟨_ | _, _⟩ <;> rfl

theorem run'_discard {σ α : Type} (x : Exec σ α) (s : σ) :
    (discard x).run' s = match x.run' s with
      | (.ok _, s') => (.ok (), s')
      | (.error e, s') => (.error e, s') := by
  rw [discard, LawfulFunctor.map_const, Function.comp_apply, run'_map]

/-! ## Replacing an entry -/

namespace Registry

/-- Putting an entry changes what its id finds, and no other. -/
theorem find?_put (r : Registry) (e : ConfigEntry) (x : String) :
    (r.put e).find? x = if x = e.entryId then (r.find? x).map fun _ => e else r.find? x := by
  unfold put find?
  rw [List.find?_map]
  have hp : ((·.entryId == x) ∘ fun y => if y.entryId == e.entryId then e else y) = (·.entryId == x) := by
    funext y
    simp only [Function.comp]
    by_cases hy : y.entryId = e.entryId <;> simp [hy]
  rw [hp]
  split
  · subst x
    cases hfind : r.entries.find? (·.entryId == e.entryId) with
    | none => rfl
    | some y =>
      have hy : y.entryId = e.entryId := by simpa using List.find?_some hfind
      simp [hy]
  · rename_i hne
    cases hfind : r.entries.find? (·.entryId == x) with
    | none => rfl
    | some y =>
      have hy : y.entryId = x := by simpa using List.find?_some hfind
      have hye : y.entryId ≠ e.entryId := fun h => hne (hy ▸ h)
      simp [hye]

theorem known_eq_ok {r : Registry} {id : String} {e : ConfigEntry} : r.known id = .ok e ↔ r.find? id = some e := by
  unfold known
  cases r.find? id <;> simp

theorem find?_entryId {r : Registry} {id : String} {e : ConfigEntry} (h : r.find? id = some e) :
    e.entryId = id := by
  simpa using List.find?_some h

/-- **Replacing an entry's data and options**: its id finds the entry with the new data and options
where they differ from the old, and every other id finds what it found. -/
theorem find?_update (r : Registry) (id x : String) (data options : Option Value) :
    (r.update id data options).1.find? x =
      if x = id then (r.find? id).map fun e =>
        { e with data := (data.filter fun d => !d.same e.data).getD e.data,
                 options := (options.filter fun o => !o.same e.options).getD e.options }
      else r.find? x := by
  unfold update
  cases he : r.find? id with
  | none =>
    dsimp only
    split
    · subst x
      exact he
    · rfl
  | some e =>
    dsimp only
    rw [find?_put]
    -- the replaced entry keeps the id it was found by
    have hid : e.entryId = id := find?_entryId he
    by_cases hx : x = id
    · subst x
      rw [if_pos hid.symm, if_pos rfl, he]
      rfl
    · rw [if_neg (fun h => hx (h.trans hid)), if_neg hx]

/-- An update that reports no change finds what the registry found. -/
theorem find?_update_unchanged (r : Registry) (id x : String) (data options : Option Value)
    (h : (r.update id data options).2 = false) : (r.update id data options).1.find? x = r.find? x := by
  unfold update at h ⊢
  cases he : r.find? id with
  | none => rfl
  | some e =>
    simp only [he, Bool.or_eq_false_iff, Option.isSome_eq_false_iff, Option.isNone_iff_eq_none] at h
    -- the entry is put back as it was, where it was
    rw [find?_put]
    simp only [h.1, h.2, Option.getD_none]
    split
    · rename_i hx
      obtain rfl : x = id := hx.trans (find?_entryId he)
      rw [he]
      rfl
    · rfl

/-- Setting an entry's state and reason changes only that in what its id finds. -/
theorem find?_setState (r : Registry) (id : String) (s : EntryState) (v : Value) :
    (r.modify id fun e => { e with state := s, reason := v }).find? id =
      (r.find? id).map fun e => { e with state := s, reason := v } :=
  (find?_modify r id id (fun e => { e with state := s, reason := v }) fun _ => rfl).trans (if_pos rfl)

/-- Replacing an entry's data changes what its id finds, and no other. -/
theorem find?_setData (r : Registry) (id x : String) (data : Value) :
    (r.setData id data).find? x = if x = id then (r.find? x).map fun e => { e with data } else r.find? x :=
  find?_modify r id x _ fun _ => rfl

end Registry

variable {σ ρ : Type}

/-! ## Setting an entry up -/

theorem listenToOptions_run' (id : String) (h : Home σ ρ) :
    (listenToOptions id : HomeM σ ρ Unit).run' h =
      (.ok (), { h with optionsListeners := h.optionsListeners ++ [id],
                        unloadHooks := assocPut h.unloadHooks id
                          (((h.unloadHooks.lookup id).getD []) ++ [.dropOptionsListener]) }) :=
  rfl

/-- The registry is `R` and the runtime data of entry `id` satisfies `P`. -/
def RuntimeHolds (R : Registry) (id : String) (P : ρ → Prop) (h : Home σ ρ) : Prop :=
  h.registry = R ∧ ∃ r, h.runtime.lookup id = some r ∧ P r

/-- Running a computation on an entry's runtime data keeps what the computation keeps of it. -/
theorem onRuntime_keeps [Wired ρ] {α : Type} {x : Exec ρ α} {P : ρ → Prop}
    (hx : ∀ r o, P r → P (x.run' (Wired.rewire r o)).2) (id : String) (R : Registry) :
    Keeps (RuntimeHolds R id P : Home σ ρ → Prop) (onRuntime id x) := by
  rintro h ⟨hR, r, hr, hP⟩
  unfold onRuntime
  simp only [run'_bind, run'_get, hr]
  rcases hrun : x.run' (Wired.rewire r h.outside) with ⟨res, r'⟩
  have hP' : P r' := by simpa [hrun] using hx r h.outside hP
  cases res <;> exact ⟨hR, r', by simp, hP'⟩

/-- **A setup that succeeded**: the entry existed; the integration's setup ran on it, marked in
progress, and succeeded; the entry is loaded afterwards. -/
theorem setupEntry_ok {release : String → HomeM σ ρ Unit} {setup : ConfigEntry → HomeM σ ρ Bool}
    {id : String} {h h' : Home σ ρ} (hrun : (setupEntry release setup id).run' h = (.ok true, h')) :
    ∃ e h1, h.registry.find? id = some e ∧
      (setup { e with state := .setupInProgress }).run'
        { h with registry := h.registry.modify id fun e => { e with state := .setupInProgress, reason := .null } } =
        (.ok true, h1) ∧
      h' = { h1 with registry := h1.registry.modify id fun e => { e with state := .loaded, reason := .null } } := by
  unfold setupEntry at hrun
  simp only [run'_bind, knownEntry_run'] at hrun
  cases hk : h.registry.known id with
  | error f => simp [hk] at hrun
  | ok e =>
    simp only [hk, setEntryState_run', run'_attempt] at hrun
    refine ⟨e, ?_⟩
    rcases hs : (setup { e with state := .setupInProgress }).run'
        { h with registry := h.registry.modify id fun e => { e with state := .setupInProgress, reason := .null } }
      with ⟨_ | b, h1⟩ <;> rw [hs] at hrun
    · -- a failed setup is a failed step, whatever the unload hooks do
      dsimp only at hrun
      split at hrun
      · simp only [run'_bind] at hrun
        split at hrun <;> simp at hrun
      · simp [run'_bind] at hrun
    · simp only [setEntryState_run', run'_bind, run'_pure, Prod.mk.injEq, Except.ok.injEq] at hrun
      obtain ⟨rfl, rfl⟩ := hrun
      exact ⟨h1, Registry.known_eq_ok.1 hk, rfl, by simp⟩

/-- **An entry set up** by an integration whose setup keeps the registry, registers the entry's
listener and leaves the entry runtime data related to it by `P`: the entry is loaded, its listener
registered, and its runtime data related to it as the setup saw it. -/
theorem setupEntry_establishes {release : String → HomeM σ ρ Unit} {setup : ConfigEntry → HomeM σ ρ Bool}
    {P : ConfigEntry → ρ → Prop}
    (hsetup : ∀ e R, Triple (fun h : Home σ ρ => h.registry = R) (setup e)
      (fun _ h => e.entryId ∈ h.optionsListeners ∧ RuntimeHolds R e.entryId (P e) h) (fun _ _ => True))
    {id : String} {h h' : Home σ ρ} (hrun : (setupEntry release setup id).run' h = (.ok true, h')) :
    ∃ e r, h.registry.find? id = some e ∧
      h'.registry.find? id = some { e with state := .loaded, reason := .null } ∧
      id ∈ h'.optionsListeners ∧ h'.runtime.lookup id = some r ∧ P { e with state := .setupInProgress } r := by
  obtain ⟨e, h1, he, hs, rfl⟩ := setupEntry_ok hrun
  have hpost := hsetup { e with state := .setupInProgress } _
    { h with registry := h.registry.modify id fun e => { e with state := .setupInProgress, reason := .null } } rfl
  rw [hs] at hpost
  obtain ⟨hin, hR, r, hr, hP⟩ := hpost
  -- the setup ran on the entry as found, under its own id
  obtain rfl : e.entryId = id := Registry.find?_entryId he
  refine ⟨e, r, he, ?_, hin, hr, hP⟩
  dsimp only
  rw [Registry.find?_setState, hR, Registry.find?_setState, he]
  rfl

/-! ## Telling the listener -/

/-- **What an options listener restores**: run for an entry that exists, it succeeds and keeps the
registry, the registrations of listeners and the runtime data of every other entry; when the entry
is `Valid` and its runtime data satisfies `Pre`, it leaves runtime data that satisfies `Pre` and
is related to the entry by `S`. -/
def ListenerRestores (listener : String → HomeM σ ρ Unit) (Valid : ConfigEntry → Prop) (Pre : ρ → Prop)
    (S : ConfigEntry → ρ → Prop) : Prop :=
  ∀ id (h : Home σ ρ) e, h.registry.find? id = some e →
    ∃ h', (listener id).run' h = (.ok (), h') ∧ h'.registry = h.registry ∧
      h'.optionsListeners = h.optionsListeners ∧
      (∀ x, x ≠ id → h'.runtime.lookup x = h.runtime.lookup x) ∧
      (Valid e → ∀ r, h.runtime.lookup id = some r → Pre r →
        ∃ r', h'.runtime.lookup id = some r' ∧ Pre r' ∧ S e r')

section Listener

variable {listener : String → HomeM σ ρ Unit} {Valid : ConfigEntry → Prop} {Pre : ρ → Prop}
  {S : ConfigEntry → ρ → Prop}

/-- A listener restores a weaker relation for fewer entries. -/
theorem ListenerRestores.mono (hl : ListenerRestores listener Valid Pre S) {Valid' : ConfigEntry → Prop}
    {S' : ConfigEntry → ρ → Prop} (hvalid : ∀ e, Valid' e → Valid e) (hS : ∀ e r, Valid' e → S e r → S' e r) :
    ListenerRestores listener Valid' Pre S' := by
  intro id h e he
  obtain ⟨h', hrun, hreg, hlis, hrt, hrestore⟩ := hl id h e he
  refine ⟨h', hrun, hreg, hlis, hrt, fun hv r hr hpre => ?_⟩
  obtain ⟨r', hr', hpre', hS'⟩ := hrestore (hvalid e hv) r hr hpre
  exact ⟨r', hr', hpre', hS e r' hv hS'⟩

/-- Running the listener once per element of `xs`: nothing changes for no element; after one run or
more, runtime data that satisfied `Pre` is replaced by data related to a valid entry. -/
theorem listener_repeat (hl : ListenerRestores listener Valid Pre S) (id : String) (e : ConfigEntry) :
    ∀ (xs : List Nat) (h : Home σ ρ), h.registry.find? id = some e →
      ∃ h', (forIn xs PUnit.unit fun _ _ => do
          listener id
          pure (ForInStep.yield PUnit.unit) : HomeM σ ρ PUnit).run' h = (.ok PUnit.unit, h') ∧
        h'.registry = h.registry ∧ h'.optionsListeners = h.optionsListeners ∧
        (∀ x, x ≠ id → h'.runtime.lookup x = h.runtime.lookup x) ∧
        (xs = [] → h' = h) ∧
        (xs ≠ [] → Valid e → ∀ r, h.runtime.lookup id = some r → Pre r →
          ∃ r', h'.runtime.lookup id = some r' ∧ Pre r' ∧ S e r')
  | [], h, _ => ⟨h, rfl, rfl, rfl, fun _ _ => rfl, fun _ => rfl, fun hne => absurd rfl hne⟩
  | _ :: xs, h, he => by
    -- the first run restores the relation; every later run restores it again
    obtain ⟨h1, h1run, h1reg, h1lis, h1rt, h1S⟩ := hl id h e he
    obtain ⟨h2, h2run, h2reg, h2lis, h2rt, h2nil, h2S⟩ := listener_repeat hl id e xs h1 (h1reg ▸ he)
    refine ⟨h2, ?_, h2reg.trans h1reg, h2lis.trans h1lis, fun x hx => (h2rt x hx).trans (h1rt x hx),
      fun hnil => absurd hnil (List.cons_ne_nil _ _), fun _ hv r hr hpre => ?_⟩
    · rw [List.forIn_cons]
      simp only [run'_bind, h1run, run'_pure]
      exact h2run
    · obtain ⟨r1, hr1, hpre1, hS1⟩ := h1S hv r hr hpre
      by_cases hxs : xs = []
      · rw [h2nil hxs]
        exact ⟨r1, hr1, hpre1, hS1⟩
      · exact h2S hxs hv r1 hr1 hpre1

/-- **Telling the listeners of entry `id`** runs the listener once per registration: nothing changes
without a registration, and with one, runtime data that satisfied `Pre` is replaced by data related
to the entry when it is valid. -/
theorem notifyOptionsListeners_law (hl : ListenerRestores listener Valid Pre S) (id : String) (h : Home σ ρ)
    (e : ConfigEntry) (he : h.registry.find? id = some e) :
    ∃ h', (notifyOptionsListeners listener id).run' h = (.ok (), h') ∧ h'.registry = h.registry ∧
      h'.optionsListeners = h.optionsListeners ∧ (∀ x, x ≠ id → h'.runtime.lookup x = h.runtime.lookup x) ∧
      (id ∉ h.optionsListeners → h' = h) ∧
      (id ∈ h.optionsListeners → Valid e → ∀ r, h.runtime.lookup id = some r → Pre r →
        ∃ r', h'.runtime.lookup id = some r' ∧ Pre r' ∧ S e r') := by
  obtain ⟨h', hrun, hreg, hlis, hrt, hzero, hpos⟩ :=
    listener_repeat hl id e (List.range (h.optionsListeners.filter (· == id)).length) h he
  refine ⟨h', ?_, hreg, hlis, hrt, fun hnot => hzero ?_, fun hin => hpos ?_⟩
  · unfold notifyOptionsListeners
    simp only [run'_bind, run'_get, run'_pure]
    rw [hrun]
  · -- without a registration the loop has no round
    rw [List.range_eq_nil, List.length_eq_zero_iff, List.filter_eq_nil_iff]
    intro x hx hxid
    have : x = id := by simpa using hxid
    exact hnot (this ▸ hx)
  · -- a registration is one round at least
    rw [ne_eq, List.range_eq_nil, List.length_eq_zero_iff]
    exact List.ne_nil_of_mem (List.mem_filter.2 ⟨hin, by simp⟩)

/-- **An options change that succeeded**: the entry exists and its record is replaced; a change is
told to the listener from the replaced registry, and no change leaves the hub at that registry. -/
theorem updateOptions_ok {id : String} {o : Value} {h h' : Home σ ρ} {b : Bool}
    (hrun : (updateOptions listener id o).run' h = (.ok b, h')) :
    (h.registry.find? id).isSome ∧ b = (h.registry.update id none (some o)).2 ∧
      (b = true → (notifyOptionsListeners listener id).run'
        { h with registry := (h.registry.update id none (some o)).1 } = (.ok (), h')) ∧
      (b = false → h' = { h with registry := (h.registry.update id none (some o)).1 }) := by
  unfold updateOptions at hrun
  simp only [run'_bind, run'_discard, knownEntry_run'] at hrun
  cases hk : h.registry.known id with
  | error f => simp [hk] at hrun
  | ok e =>
    simp only [hk, modifyRegistry, run'_modify, run'_get] at hrun
    refine ⟨Registry.find?_isSome_of_known hk, ?_⟩
    cases hc : (h.registry.update id none (some o)).2
    · simp only [hc, Bool.false_eq_true, if_false, run'_pure, Prod.mk.injEq, Except.ok.injEq] at hrun
      obtain ⟨rfl, rfl⟩ := hrun
      exact ⟨rfl, fun h => absurd h (by decide), fun _ => rfl⟩
    · simp only [hc, if_true, run'_bind] at hrun
      split at hrun
      · rename_i u h1 hn
        simp only [run'_pure, Prod.mk.injEq, Except.ok.injEq] at hrun
        obtain ⟨rfl, rfl⟩ := hrun
        exact ⟨rfl, fun _ => hn, fun h => absurd h (by decide)⟩
      · cases hrun

/-- **A reauthentication that succeeded**: with no change the flow's hub stays as it was; with one,
the entry's data is replaced, the listener told and a reload recorded. -/
theorem updateReloadAndAbort_ok {id : String} {data : Value} {changed : Bool} {w w' : FlowWorld σ ρ}
    {r : FlowResult} (hrun : (updateReloadAndAbort listener id data changed).run' w = (.ok r, w')) :
    (changed = false → w'.home = w.home) ∧
      (changed = true → ∃ h1, (notifyOptionsListeners listener id).run'
          { w.home with registry := w.home.registry.setData id data } = (.ok (), h1) ∧
        w'.home = { h1 with journal := { h1.journal with reloads := h1.journal.reloads ++ [id] } }) := by
  unfold updateReloadAndAbort at hrun
  cases changed with
  | false =>
    simp only [Bool.false_eq_true, if_false, run'_pure, Prod.mk.injEq] at hrun
    exact ⟨fun _ => by rw [← hrun.2], fun h => absurd h (by decide)⟩
  | true =>
    simp only [if_true, run'_bind, viaHub, run'_focus, modifyRegistry, run'_modify] at hrun
    refine ⟨fun h => absurd h (by decide), fun _ => ?_⟩
    split at hrun
    · rename_i u w1 hinner
      simp only [run'_pure, Prod.mk.injEq] at hrun
      split at hinner
      · rename_i v h1 hn
        refine ⟨h1, hn, ?_⟩
        simp only [recordReload, modifyJournal, run'_modify, Prod.mk.injEq] at hinner
        rw [← hrun.2, ← hinner.2]
      · cases hinner
    · cases hrun

end Listener

/-! ## Following an entry through its changes -/

section Follow

variable {listener : String → HomeM σ ρ Unit} {Valid : ConfigEntry → Prop} {Pre : ρ → Prop}
  {S : ConfigEntry → ρ → Prop}

/-- **Entry `id` is followed**: it exists, its options listener is registered, and its runtime
data satisfies `Pre` and is related to it by `S`. -/
def Follows (S : ConfigEntry → ρ → Prop) (Pre : ρ → Prop) (id : String) (h : Home σ ρ) : Prop :=
  ∃ e r, h.registry.find? id = some e ∧ id ∈ h.optionsListeners ∧ h.runtime.lookup id = some r ∧
    Pre r ∧ S e r

/-- What following entry `x` reads is the record of `x`, the registrations and the runtime data of
`x`; a step that keeps these keeps it. -/
theorem Follows.of_frame {h h' : Home σ ρ} {x : String} (hf : Follows S Pre x h)
    (hreg : h'.registry.find? x = h.registry.find? x) (hlis : h'.optionsListeners = h.optionsListeners)
    (hrt : h'.runtime.lookup x = h.runtime.lookup x) : Follows S Pre x h' := by
  obtain ⟨e, r, he, hin, hr, hpre, hS⟩ := hf
  refine ⟨e, r, hreg.trans he, ?_, hrt.trans hr, hpre, hS⟩
  rw [hlis]
  exact hin

/-- **A change told to a registered listener**: when the listener of entry `id` is registered and
the entry's runtime data satisfies `Pre`, telling it a valid new record of the entry leaves the
entry followed. -/
theorem Follows.of_notify (hl : ListenerRestores listener Valid Pre S) {h h' : Home σ ρ} {id : String}
    {reg : Registry} (hin : id ∈ h.optionsListeners) {r : ρ} (hr : h.runtime.lookup id = some r) (hpre : Pre r)
    (hex : (reg.find? id).isSome)
    (hrun : (notifyOptionsListeners listener id).run' { h with registry := reg } = (.ok (), h'))
    (hv : ∀ e, h'.registry.find? id = some e → Valid e) : Follows S Pre id h' := by
  obtain ⟨e', he'⟩ := Option.isSome_iff_exists.1 hex
  obtain ⟨h'', hrun', hreg, hlis, -, -, hpos⟩ := notifyOptionsListeners_law hl id { h with registry := reg } e' he'
  obtain rfl : h' = h'' := (Prod.mk.inj (hrun.symm.trans hrun')).2
  have hfound : h'.registry.find? id = some e' := by rw [hreg]; exact he'
  obtain ⟨r', hr', hpre', hS'⟩ := hpos hin (hv e' hfound) r hr hpre
  refine ⟨e', r', hfound, ?_, hr', hpre', hS'⟩
  rw [hlis]
  exact hin

/-- **One change, told**: after the record of entry `id` is replaced by another, every other record
left as it was, telling the listener keeps every entry followed when the new record is valid. -/
theorem Follows.notify (hl : ListenerRestores listener Valid Pre S) {h h' : Home σ ρ} {x id : String}
    (hf : Follows S Pre x h) {reg : Registry} (hother : ∀ y, y ≠ id → reg.find? y = h.registry.find? y)
    (hex : (reg.find? id).isSome)
    (hrun : (notifyOptionsListeners listener id).run' { h with registry := reg } = (.ok (), h'))
    (hv : ∀ e, h'.registry.find? id = some e → Valid e) : Follows S Pre x h' := by
  by_cases hx : x = id
  · -- the changed entry: its listener is registered, so it ran and restored the relation
    subst x
    obtain ⟨e, r, -, hin, hr, hpre, -⟩ := hf
    exact Follows.of_notify hl hin hr hpre hex hrun hv
  · -- any other entry: the change and the listener leave it alone
    obtain ⟨e', he'⟩ := Option.isSome_iff_exists.1 hex
    obtain ⟨h'', hrun', hreg, hlis, hrt, -⟩ := notifyOptionsListeners_law hl id { h with registry := reg } e' he'
    obtain rfl : h' = h'' := (Prod.mk.inj (hrun.symm.trans hrun')).2
    exact hf.of_frame (by rw [hreg]; exact hother x hx) hlis (hrt x hx)

/-- **An options change told to a registered listener** leaves the entry followed, whatever its
runtime data was related to before. -/
theorem Follows.of_updateOptions (hl : ListenerRestores listener Valid Pre S) {h h' : Home σ ρ} {id : String}
    {o : Value} (hrun : (updateOptions listener id o).run' h = (.ok true, h')) (hin : id ∈ h.optionsListeners)
    {r : ρ} (hr : h.runtime.lookup id = some r) (hpre : Pre r)
    (hv : ∀ e, h'.registry.find? id = some e → Valid e) : Follows S Pre id h' := by
  obtain ⟨hex, hb, hchanged, -⟩ := updateOptions_ok hrun
  refine Follows.of_notify hl hin hr hpre ?_ (hchanged rfl) hv
  rw [Registry.find?_update, if_pos rfl, Option.isSome_map]
  exact hex

/-- **An options change keeps every entry followed**, when the changed entry is valid. -/
theorem Follows.updateOptions (hl : ListenerRestores listener Valid Pre S) {h h' : Home σ ρ} {x id : String}
    {o : Value} {b : Bool} (hf : Follows S Pre x h) (hrun : (updateOptions listener id o).run' h = (.ok b, h'))
    (hv : ∀ e, h'.registry.find? id = some e → Valid e) : Follows S Pre x h' := by
  obtain ⟨hex, rfl, hchanged, hsame⟩ := updateOptions_ok hrun
  cases hc : (h.registry.update id none (some o)).2
  · -- nothing changed: every id finds what it found
    rw [hsame hc]
    exact hf.of_frame (Registry.find?_update_unchanged _ _ _ _ _ hc) rfl rfl
  · refine hf.notify hl (fun y hy => ?_) ?_ (hchanged hc) hv
    · rw [Registry.find?_update, if_neg hy]
    · rw [Registry.find?_update, if_pos rfl, Option.isSome_map]
      exact hex

/-- **A reauthentication keeps every entry followed**, when the entry exists and its new record is
valid. -/
theorem Follows.reauth (hl : ListenerRestores listener Valid Pre S) {w w' : FlowWorld σ ρ} {x id : String}
    {data : Value} {changed : Bool} {r : FlowResult} (hf : Follows S Pre x w.home)
    (hex : (w.home.registry.find? id).isSome)
    (hrun : (updateReloadAndAbort listener id data changed).run' w = (.ok r, w'))
    (hv : ∀ e, w'.home.registry.find? id = some e → Valid e) : Follows S Pre x w'.home := by
  obtain ⟨hsame, hchanged⟩ := updateReloadAndAbort_ok hrun
  cases changed with
  | false => exact hsame rfl ▸ hf
  | true =>
    obtain ⟨h1, hrun1, hw'⟩ := hchanged rfl
    rw [hw'] at hv ⊢
    -- recording the reload changes only the journal
    refine Follows.of_frame (h := h1) ?_ rfl rfl rfl
    refine hf.notify hl (fun y hy => ?_) ?_ hrun1 hv
    · rw [Registry.find?_setData, if_neg hy]
    · rw [Registry.find?_setData, if_pos rfl, Option.isSome_map]
      exact hex

/-- **One change of an entry that the hub tells its options listener**, to a `Valid` record: new
options, or new data from a reauthentication of an entry that exists. -/
inductive EntryUpdate (listener : String → HomeM σ ρ Unit) (Valid : ConfigEntry → Prop) :
    Home σ ρ → Home σ ρ → Prop
  | options {h h' : Home σ ρ} (id : String) (o : Value) {b : Bool}
      (run : (updateOptions listener id o).run' h = (.ok b, h'))
      (valid : ∀ e, h'.registry.find? id = some e → Valid e) : EntryUpdate listener Valid h h'
  | reauth {w w' : FlowWorld σ ρ} (id : String) (data : Value) (changed : Bool) {r : FlowResult}
      (exists_ : (w.home.registry.find? id).isSome)
      (run : (updateReloadAndAbort listener id data changed).run' w = (.ok r, w'))
      (valid : ∀ e, w'.home.registry.find? id = some e → Valid e) : EntryUpdate listener Valid w.home w'.home

/-- **Every change keeps every entry followed** (the step lemma). -/
theorem EntryUpdate.follows (hl : ListenerRestores listener Valid Pre S) {h h' : Home σ ρ} {x : String}
    (hs : EntryUpdate listener Valid h h') (hf : Follows S Pre x h) : Follows S Pre x h' := by
  cases hs with
  | options id o run valid => exact hf.updateOptions hl run valid
  | reauth id data changed exists_ run valid => exact hf.reauth hl exists_ run valid

/-- **Every run of changes keeps every entry followed** (the run lemma). -/
theorem EntryUpdate.follows_run (hl : ListenerRestores listener Valid Pre S) {h h' : Home σ ρ} {x : String}
    (hrun : Relation.ReflTransGen (EntryUpdate listener Valid) h h') (hf : Follows S Pre x h) :
    Follows S Pre x h' := by
  induction hrun with
  | refl => exact hf
  | tail _ hs ih => exact hs.follows hl ih

end Follow

end Hub
end ConnectedHome
