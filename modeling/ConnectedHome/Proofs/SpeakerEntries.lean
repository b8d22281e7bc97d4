import ConnectedHome.Speaker.Integration
import ConnectedHome.Proofs.EventRouting
import ConnectedHome.Proofs.HubEntries
import ConnectedHome.Proofs.Triples
import ConnectedHome.Proofs.SpeakerReads
import Mathlib.Logic.Relation
import Mathlib.Data.List.Nodup
/-!
# SpeakerEntries — the shared listener follows the loaded speaker entries

All speaker entries share one event listener.  Setting an entry up registers its speaker's
device id with the entry as handler and starts the listener; unloading it releases the device,
which stops the listener when no device is left.

What the listener's bookkeeping reads of the hub is `Books`: the registry, the runtime data, the
listener and the unload hooks.  `Books.Serves` is the invariant: the listener routes exactly the
devices of the loaded entries, each to its entry, and runs exactly while it routes one; a loaded
entry has its speaker and will release it when unloaded, and any other entry has nothing to run.

- `startListener_triple`, `speakerSetupEntry_triple`, `releaseSpeaker_triple`: what setting a
  speaker up and releasing it do to the bookkeeping;
- `Books.Serves.install`, `Books.Serves.unload`, `Books.Serves.refresh`: the invariant survives a
  speaker set up whose device no other loaded entry has, an entry unloaded, and a refresh that
  keeps the speaker's device;
- `refreshSpeakerEntry_books`: the coordinator's refresh of a speaker whose id is known keeps it,
  since it only refreshes; while the id is unknown it sets the speaker up again, and an id learned
  then is never registered with the listener, so the law below leaves such refreshes out;
- `speakerListener_law`: along every run of setups of entries that are not loaded, of unloads and
  of such refreshes, from a hub with nothing loaded, in which the loaded entries' devices stay
  apart, every loaded entry's device is routed to it by a running listener, and once nothing is
  loaded no device is registered and the listener is stopped.
-/
namespace ConnectedHome
namespace Speaker

open Hub Exec

/-- What the bookkeeping of the shared listener reads of the hub. -/
structure Books where
  registry : Registry
  runtime : List (String × PolledSpeaker)
  listener : Option (Listener String)
  hooks : List (String × List UnloadHook)

/-- The bookkeeping of a hub. -/
def books (h : SpeakerHub) : Books := ⟨h.registry, h.runtime, h.shared.listener, h.unloadHooks⟩

/-- The hooks a loaded speaker entry leaves to its unloading, in the order they were added. -/
def entryHooks : List UnloadHook := [.releaseDevice, .dropOptionsListener]

/-- The speaker with its keep-alive task set. -/
def PolledSpeaker.withTask (p : PolledSpeaker) (t : KeepAliveTask) : PolledSpeaker :=
  { p with home := { p.home with speaker := { p.home.speaker with keepAliveTask := t } } }

/-- The listener once a released device left it: it stops when it routes no device more. -/
def stopIfIdle (l : Listener String) : Listener String :=
  if l.deviceIds.isEmpty then { l with running := false } else l

namespace Books

/-- The entry the listener routes the upper-cased device id `key` to. -/
def handler (b : Books) (key : String) : Option String := b.listener.bind (·.handlerAt key)

/-- The unload hooks of entry `id`. -/
def hooksOf (b : Books) (id : String) : List UnloadHook := (b.hooks.lookup id).getD []

/-- The device id of the speaker of entry `id`, when the entry has a speaker. -/
def deviceOf (b : Books) (id : String) : Option String :=
  (b.runtime.lookup id).map fun p => Text.upper p.home.speaker.deviceId

/-- The listener made, if there was none yet. -/
def made (b : Books) : Books := { b with listener := some (b.listener.getD {}) }

/-- The listener made and running. -/
def started (b : Books) : Books := { b with listener := some { b.listener.getD {} with running := true } }

/-- Entry `id` has set up speaker `p`: the listener runs and routes the speaker's device to the
entry, whose runtime data is `p` and whose unload hooks will release it. -/
def install (b : Books) (id : String) (p : PolledSpeaker) : Books where
  registry := b.registry
  runtime := assocPut b.runtime id p
  listener := some ({ b.listener.getD {} with running := true }.register p.home.speaker.deviceId id)
  hooks := assocPut b.hooks id (b.hooksOf id ++ entryHooks)

/-- Entry `id` has released its speaker `p`, leaving `p'` as its runtime data: the listener no
longer routes the device, and stops when it routes none. -/
def release (b : Books) (id : String) (p p' : PolledSpeaker) : Books :=
  { b with runtime := assocPut b.runtime id p',
           listener := (b.listener.map (·.unregister p.home.speaker.deviceId)).map stopIfIdle }

/-- Entry `id`'s speaker refreshed, leaving `p'` as its runtime data. -/
def refresh (b : Books) (id : String) (p' : PolledSpeaker) : Books := { b with runtime := assocPut b.runtime id p' }

/-- **The shared listener follows the loaded entries.** -/
structure Serves (b : Books) : Prop where
  /-- The listener routes exactly the devices of the loaded entries, each to its entry. -/
  routes : ∀ key id, b.handler key = some id ↔ b.registry.Loaded id ∧ b.deviceOf id = some key
  /-- The listener runs exactly while it routes a device. -/
  running : ∀ l, b.listener = some l → (l.running = true ↔ l.deviceIds ≠ [])
  /-- A loaded entry has its speaker. -/
  runtime : ∀ id, b.registry.Loaded id → (b.runtime.lookup id).isSome
  /-- A loaded entry will release its device when unloaded. -/
  loadedHooks : ∀ id, b.registry.Loaded id → b.hooksOf id = entryHooks
  /-- Any other entry has nothing to run when unloaded. -/
  idleHooks : ∀ id, ¬ b.registry.Loaded id → b.hooksOf id = []

/-- The loaded entries' speakers have different devices. -/
def DevicesApart (b : Books) : Prop :=
  ∀ a c key, b.registry.Loaded a → b.registry.Loaded c → b.deviceOf a = some key → b.deviceOf c = some key → a = c

/-- The devices of the loaded entries, in the registry's order. -/
def loadedDevices (b : Books) : List (Option String) :=
  (b.registry.entries.filter (·.state == .loaded)).map fun e => b.deviceOf e.entryId

/-- The state and reason of entry `id` set. -/
def setState (b : Books) (id : String) (s : EntryState) (v : Value) : Books :=
  { b with registry := b.registry.modify id fun e => { e with state := s, reason := v } }

/-- The unload hooks of entry `id` forgotten. -/
def clearHooks (b : Books) (id : String) : Books := { b with hooks := assocPut b.hooks id [] }

variable {b : Books} {id : String}

@[simp] theorem setState_handler (b : Books) (id : String) (s : EntryState) (v : Value) (key : String) :
    (b.setState id s v).handler key = b.handler key := rfl

@[simp] theorem setState_deviceOf (b : Books) (id : String) (s : EntryState) (v : Value) (x : String) :
    (b.setState id s v).deviceOf x = b.deviceOf x := rfl

@[simp] theorem setState_hooksOf (b : Books) (id : String) (s : EntryState) (v : Value) (x : String) :
    (b.setState id s v).hooksOf x = b.hooksOf x := rfl

@[simp] theorem clearHooks_handler (b : Books) (id key : String) : (b.clearHooks id).handler key = b.handler key := rfl

@[simp] theorem clearHooks_deviceOf (b : Books) (id x : String) : (b.clearHooks id).deviceOf x = b.deviceOf x := rfl

theorem handler_made (b : Books) (key : String) : b.made.handler key = b.handler key := by
  unfold made handler
  cases b.listener <;> rfl

theorem handler_eq_getD (b : Books) (key : String) : b.handler key = (b.listener.getD {}).handlerAt key := by
  unfold handler
  cases b.listener <;> rfl

theorem handler_install (b : Books) (id : String) (p : PolledSpeaker) (key : String) :
    (b.install id p).handler key =
      if Text.upper p.home.speaker.deviceId = key then some id else b.handler key := by
  rw [handler_eq_getD, handler_eq_getD]
  simp only [install, Option.getD_some, Listener.handlerAt_register]
  -- a running listener routes as it did before it ran
  rfl

theorem handler_release (b : Books) (id : String) (p p' : PolledSpeaker) (key : String) :
    (b.release id p p').handler key =
      if Text.upper p.home.speaker.deviceId = key then none else b.handler key := by
  unfold release handler
  cases b.listener with
  | none => simp
  | some l =>
    -- stopping the listener leaves its table as it is
    have hs : ∀ l' : Listener String, (stopIfIdle l').handlerAt key = l'.handlerAt key := by
      intro l'
      unfold stopIfIdle
      split <;> rfl
    simp only [Option.map_some, Option.bind_some, hs, Listener.handlerAt_unregister]

theorem deviceOf_install (b : Books) (id : String) (p : PolledSpeaker) (x : String) :
    (b.install id p).deviceOf x = if id = x then some (Text.upper p.home.speaker.deviceId) else b.deviceOf x := by
  unfold install deviceOf
  simp only [lookup_assocPut]
  split <;> rfl

theorem deviceOf_release (b : Books) (id : String) (p p' : PolledSpeaker) (x : String) :
    (b.release id p p').deviceOf x = if id = x then some (Text.upper p'.home.speaker.deviceId) else b.deviceOf x := by
  unfold release deviceOf
  simp only [lookup_assocPut]
  split <;> rfl

theorem deviceOf_refresh (b : Books) (id : String) (p' : PolledSpeaker) (x : String) :
    (b.refresh id p').deviceOf x = if id = x then some (Text.upper p'.home.speaker.deviceId) else b.deviceOf x := by
  unfold refresh deviceOf
  simp only [lookup_assocPut]
  split <;> rfl

theorem hooksOf_install (b : Books) (id : String) (p : PolledSpeaker) (x : String) :
    (b.install id p).hooksOf x = if id = x then b.hooksOf id ++ entryHooks else b.hooksOf x := by
  unfold install hooksOf
  simp only [lookup_assocPut]
  split <;> rfl

theorem hooksOf_clearHooks (b : Books) (id x : String) :
    (b.clearHooks id).hooksOf x = if id = x then [] else b.hooksOf x := by
  unfold clearHooks hooksOf
  simp only [lookup_assocPut]
  split <;> rfl

theorem loaded_setState_of_ne (b : Books) (id x : String) {s : EntryState} (v : Value) (hs : s ≠ .loaded) :
    (b.setState id s v).registry.Loaded x ↔ x ≠ id ∧ b.registry.Loaded x := by
  unfold setState
  rw [Registry.loaded_setState]
  constructor
  · rintro (⟨-, -, h⟩ | h)
    · exact absurd h hs
    · exact h
  · exact .inr

/-- Marking an entry of the registry loaded adds it to the loaded entries. -/
theorem loaded_setState_loaded (b : Books) (id x : String) (v : Value) (hfind : (b.registry.find? id).isSome) :
    (b.setState id .loaded v).registry.Loaded x ↔ x = id ∨ b.registry.Loaded x := by
  unfold setState
  rw [Registry.loaded_setState]
  constructor
  · rintro (⟨rfl, -, -⟩ | ⟨-, h⟩)
    · exact .inl rfl
    · exact .inr h
  · rintro (rfl | h)
    · exact .inl ⟨rfl, hfind, rfl⟩
    · by_cases hx : x = id
      · exact .inl ⟨hx, hfind, rfl⟩
      · exact .inr ⟨hx, h⟩

/-- **The loaded entries' devices are apart** when no device shows twice among them. -/
theorem devicesApart_of_nodup (h : b.loadedDevices.Nodup) : b.DevicesApart := by
  -- a loaded entry is one of the loaded entries of the registry, under its own id
  have hmem : ∀ {x e}, b.registry.find? x = some e → e.state = .loaded →
      e ∈ b.registry.entries.filter (·.state == .loaded) ∧ e.entryId = x := by
    intro x e hf hs
    refine ⟨List.mem_filter.2 ⟨List.mem_of_find?_eq_some hf, by rw [hs]; rfl⟩, ?_⟩
    simpa using List.find?_some hf
  intro a c key ⟨ea, hfa, hsa⟩ ⟨ec, hfc, hsc⟩ hda hdc
  obtain ⟨hma, rfl⟩ := hmem hfa hsa
  obtain ⟨hmc, rfl⟩ := hmem hfc hsc
  rw [List.inj_on_of_nodup_map h hma hmc (hda.trans hdc.symm)]

/-- The invariant reads the registry only through which entries are loaded. -/
theorem Serves.of_loaded (hb : b.Serves) {r : Registry} (hr : ∀ x, r.Loaded x ↔ b.registry.Loaded x) :
    ({ b with registry := r } : Books).Serves where
  routes key x := by rw [hr]; exact hb.routes key x
  running := hb.running
  runtime x hx := hb.runtime x ((hr x).1 hx)
  loadedHooks x hx := hb.loadedHooks x ((hr x).1 hx)
  idleHooks x hx := hb.idleHooks x (fun h => hx ((hr x).2 h))

/-- Setting the state of an entry that is not loaded to another state keeps the invariant. -/
theorem Serves.setState (hb : b.Serves) (hnot : ¬ b.registry.Loaded id) {s : EntryState} (v : Value)
    (hs : s ≠ .loaded) : (b.setState id s v).Serves :=
  hb.of_loaded fun x => (loaded_setState_of_ne b id x v hs).trans
    ⟨fun h => h.2, fun h => ⟨fun hx => hnot (hx ▸ h), h⟩⟩

/-- A listener made where there was none routes nothing and does not run. -/
theorem Serves.made (hb : b.Serves) : b.made.Serves where
  routes key x := by rw [handler_made]; exact hb.routes key x
  running l hl := by
    cases hlb : b.listener with
    | none =>
      simp only [Books.made, hlb, Option.getD_none, Option.some.injEq] at hl
      subst hl
      simp [Listener.deviceIds]
    | some l' =>
      simp only [Books.made, hlb, Option.getD_some, Option.some.injEq] at hl
      subst hl
      exact hb.running l' hlb
  runtime := hb.runtime
  loadedHooks := hb.loadedHooks
  idleHooks := hb.idleHooks

/-- Forgetting the hooks of an entry that is not loaded keeps the invariant. -/
theorem Serves.clearHooks (hb : b.Serves) (hnot : ¬ b.registry.Loaded id) : (b.clearHooks id).Serves where
  routes := hb.routes
  running := hb.running
  runtime := hb.runtime
  loadedHooks x hx := by
    have hne : id ≠ x := fun h => hnot (h ▸ hx)
    rw [hooksOf_clearHooks, if_neg hne]
    exact hb.loadedHooks x hx
  idleHooks x hx := by
    rw [hooksOf_clearHooks]
    split
    · rfl
    · exact hb.idleHooks x hx

/-- **A speaker set up keeps the invariant** when no other loaded entry has its device: the entry
is loaded, its device is routed to it, and the listener runs. -/
theorem Serves.install (hb : b.Serves) (hnot : ¬ b.registry.Loaded id) (hfind : (b.registry.find? id).isSome)
    (p : PolledSpeaker) (hapart : ((b.install id p).setState id .loaded .null).DevicesApart) :
    ((b.install id p).setState id .loaded .null).Serves := by
  have hL : ∀ x, ((b.install id p).setState id .loaded .null).registry.Loaded x ↔ x = id ∨ b.registry.Loaded x :=
    fun x => loaded_setState_loaded (b.install id p) id x .null hfind
  have hself : (b.install id p).deviceOf id = some (Text.upper p.home.speaker.deviceId) := by
    rw [deviceOf_install, if_pos rfl]
  refine ⟨fun key x => ?_, fun l hl => ?_, fun x hx => ?_, fun x hx => ?_, fun x hx => ?_⟩
  · -- routes: the new device goes to the entry, every other device where it went
    rw [setState_handler, setState_deviceOf, handler_install, hL]
    by_cases hk : Text.upper p.home.speaker.deviceId = key
    · rw [if_pos hk]
      constructor
      · rintro ⟨⟩
        exact ⟨.inl rfl, hk ▸ hself⟩
      · rintro ⟨hx, hdx⟩
        -- a loaded entry with the same device is the entry itself
        exact (hapart x id key ((hL x).2 hx) ((hL id).2 (.inl rfl)) hdx (hk ▸ hself)).symm ▸ rfl
    · rw [if_neg hk, hb.routes, deviceOf_install]
      by_cases hix : id = x
      · subst hix
        rw [if_pos rfl]
        constructor
        · rintro ⟨h, -⟩
          exact absurd h hnot
        · rintro ⟨-, hd⟩
          exact absurd (Option.some.inj hd) hk
      · rw [if_neg hix]
        exact ⟨fun h => ⟨.inr h.1, h.2⟩, fun h => ⟨h.1.resolve_left (Ne.symm hix), h.2⟩⟩
  · -- running: the listener was started, and routes the new device
    simp only [Books.setState, Books.install, Option.some.injEq] at hl
    subst hl
    refine ⟨fun _ hnil => ?_, fun _ => rfl⟩
    have hmem : Text.upper p.home.speaker.deviceId ∈
        ({ b.listener.getD {} with running := true }.register p.home.speaker.deviceId id).deviceIds := by
      rw [Listener.mem_deviceIds, Listener.handlerAt_register, if_pos rfl]
      rfl
    rw [hnil] at hmem
    exact List.not_mem_nil hmem
  · -- runtime
    show ((assocPut b.runtime id p).lookup x).isSome = true
    rw [lookup_assocPut]
    rcases (hL x).1 hx with rfl | h
    · rw [if_pos rfl]
      rfl
    · rw [if_neg fun e : id = x => hnot (e ▸ h)]
      exact hb.runtime x h
  · -- loaded hooks: the new entry's hooks are exactly the entry's
    rw [setState_hooksOf, hooksOf_install]
    rcases (hL x).1 hx with rfl | h
    · rw [if_pos rfl, hb.idleHooks x hnot, List.nil_append]
    · rw [if_neg fun e : id = x => hnot (e ▸ h)]
      exact hb.loadedHooks x h
  · -- idle hooks
    have hix : id ≠ x := fun e => hx ((hL x).2 (.inl e.symm))
    rw [setState_hooksOf, hooksOf_install, if_neg hix]
    exact hb.idleHooks x fun h => hx ((hL x).2 (.inr h))

/-- **Unloading a loaded entry keeps the invariant**: its device is no longer routed, and the
listener stops when it was the last. -/
theorem Serves.unload (hb : b.Serves) (hl : b.registry.Loaded id) {p p' : PolledSpeaker}
    (hp : b.runtime.lookup id = some p) :
    (((b.clearHooks id).release id p p').setState id .notLoaded .null).Serves := by
  have hL : ∀ x, (((b.clearHooks id).release id p p').setState id .notLoaded .null).registry.Loaded x ↔
      x ≠ id ∧ b.registry.Loaded x := fun x => loaded_setState_of_ne _ id x .null (by intro h; cases h)
  have hself : b.deviceOf id = some (Text.upper p.home.speaker.deviceId) := by simp [deviceOf, hp]
  refine ⟨fun key x => ?_, fun l hl => ?_, fun x hx => ?_, fun x hx => ?_, fun x hx => ?_⟩
  · -- routes: the released device goes nowhere, every other device where it went
    rw [setState_handler, setState_deviceOf, handler_release, deviceOf_release, hL, clearHooks_handler,
      clearHooks_deviceOf]
    by_cases hk : Text.upper p.home.speaker.deviceId = key
    · rw [if_pos hk]
      simp only [reduceCtorEq, false_iff, not_and]
      rintro ⟨hix, hx⟩ hdx
      rw [if_neg (Ne.symm hix)] at hdx
      -- the device was routed to the entry, so no other entry has it
      have h1 := (hb.routes key x).2 ⟨hx, hdx⟩
      have h2 := (hb.routes key id).2 ⟨hl, hk ▸ hself⟩
      exact hix (Option.some.inj (h1.symm.trans h2))
    · rw [if_neg hk, hb.routes]
      by_cases hix : id = x
      · subst hix
        simp only [ne_eq, not_true_eq_false, false_and, iff_false, not_and]
        intro _ hdx
        exact hk (Option.some.inj (hself.symm.trans hdx))
      · rw [if_neg hix]
        exact ⟨fun h => ⟨⟨Ne.symm hix, h.1⟩, h.2⟩, fun h => ⟨h.1.2, h.2⟩⟩
  · -- running: the listener stops exactly when the released device was its last
    cases hlb : b.listener with
    | none => simp [Books.setState, Books.release, Books.clearHooks, hlb] at hl
    | some l0 =>
      simp only [Books.setState, Books.release, Books.clearHooks, hlb, Option.map_some, Option.some.injEq] at hl
      subst hl
      unfold stopIfIdle
      split
      · rename_i hempty
        simp only [Bool.false_eq_true, false_iff, not_not]
        exact List.isEmpty_iff.1 hempty
      · rename_i hne
        have hne' : (l0.unregister p.home.speaker.deviceId).deviceIds ≠ [] := fun h => hne (by simp [h])
        have hsub : (l0.unregister p.home.speaker.deviceId).deviceIds.Sublist l0.deviceIds :=
          List.filter_sublist.map _
        refine ⟨fun _ => hne', fun _ => (hb.running l0 hlb).2 fun h0 => hne' ?_⟩
        exact List.sublist_nil.1 (h0 ▸ hsub)
  · -- runtime
    obtain ⟨hix, h⟩ := (hL x).1 hx
    show ((assocPut b.runtime id p').lookup x).isSome = true
    rw [lookup_assocPut, if_neg (Ne.symm hix)]
    exact hb.runtime x h
  · -- loaded hooks
    obtain ⟨hix, h⟩ := (hL x).1 hx
    rw [setState_hooksOf]
    change (b.clearHooks id).hooksOf x = _
    rw [hooksOf_clearHooks, if_neg (Ne.symm hix)]
    exact hb.loadedHooks x h
  · -- idle hooks
    rw [setState_hooksOf]
    change (b.clearHooks id).hooksOf x = _
    rw [hooksOf_clearHooks]
    split
    · rfl
    · rename_i hix
      exact hb.idleHooks x fun h => hx ((hL x).2 ⟨Ne.symm hix, h⟩)

/-- **A refresh that keeps the speaker's device keeps the invariant**: only the entry's runtime
data changes. -/
theorem Serves.refresh (hb : b.Serves) {p p' : PolledSpeaker} (hp : b.runtime.lookup id = some p)
    (hdev : p'.home.speaker.deviceId = p.home.speaker.deviceId) : (b.refresh id p').Serves := by
  have hd : ∀ x, (b.refresh id p').deviceOf x = b.deviceOf x := by
    intro x
    rw [deviceOf_refresh]
    split
    · subst x
      simp [deviceOf, hp, hdev]
    · rfl
  refine ⟨fun key x => ?_, hb.running, fun x hx => ?_, hb.loadedHooks, hb.idleHooks⟩
  · rw [hd]
    exact hb.routes key x
  · show ((assocPut b.runtime id p').lookup x).isSome = true
    rw [lookup_assocPut]
    split
    · rfl
    · exact hb.runtime x hx

end Books

/-! ### What the hub's steps do to the bookkeeping -/

/-- A listener that runs is started already. -/
theorem Listener.with_running_eq_self {α : Type} {l : Listener α} (h : l.running = true) :
    { l with running := true } = l := by
  obtain ⟨hs, r⟩ := l
  subst h
  rfl

section Steps

variable {b : Books} {E : Fault → SpeakerHub → Prop}

theorem modifyListener_books (f : Listener String → Listener String) :
    Triple (fun h => books h = b) (modifyListener f) (fun _ h => books h = { b with listener := b.listener.map f }) E := by
  rintro h rfl
  rfl

theorem putRuntime_books (id : String) (p : PolledSpeaker) :
    Triple (fun h => books h = b) (putRuntime id p : SpeakerHubM Unit)
      (fun _ h => books h = { b with runtime := assocPut b.runtime id p }) E := by
  rintro h rfl
  rfl

theorem addUnloadHook_books (id : String) (k : UnloadHook) :
    Triple (fun h => books h = b) (addUnloadHook id k : SpeakerHubM Unit)
      (fun _ h => books h = { b with hooks := assocPut b.hooks id (b.hooksOf id ++ [k]) }) E := by
  rintro h rfl
  rfl

theorem listenToOptions_books (id : String) :
    Triple (fun h => books h = b) (listenToOptions id : SpeakerHubM Unit)
      (fun _ h => books h = { b with hooks := assocPut b.hooks id (b.hooksOf id ++ [.dropOptionsListener]) }) E := by
  rintro h rfl
  rfl

theorem setEntryState_books (id : String) (s : EntryState) (v : Value) :
    Triple (fun h => books h = b) (setEntryState id s v : SpeakerHubM Unit) (fun _ h => books h = b.setState id s v) E := by
  rintro h rfl
  rfl

/-- What records the platforms of an entry changes nothing of the bookkeeping. -/
theorem recordForwarded_books (id platform : String) (entities : List String) :
    Triple (fun h => books h = b) (recordForwarded id platform entities : SpeakerHubM Unit)
      (fun _ h => books h = b) E := by
  rintro h rfl
  rfl

theorem sharedListener_run' (h : SpeakerHub) :
    sharedListener.run' h = (.ok (h.shared.listener.getD {}),
      { h with shared := { h.shared with listener := some (h.shared.listener.getD {}) } }) := rfl

/-- **Starting the listener**: it is made if there is none, and runs afterwards unless it did not
run and the port is refused. -/
theorem startListener_triple :
    Triple (fun h => books h = b) startListener (fun _ h => books h = b.started) (fun _ h => books h = b.made) := by
  rintro h rfl
  unfold startListener
  rw [run'_bind, sharedListener_run']
  dsimp only
  by_cases hrun : (h.shared.listener.getD {}).running = true
  · -- it ran already: starting it again changes nothing
    rw [if_pos hrun]
    show (books h).made = (books h).started
    simp only [Books.made, Books.started, books, Listener.with_running_eq_self hrun]
  · rw [if_neg hrun, run'_bind, run'_get]
    dsimp only
    cases h.shared.bindRefusal with
    | some f => rfl
    | none => rfl

theorem modifyListener_run' (h : SpeakerHub) (f : Listener String → Listener String) :
    (modifyListener f).run' h = (.ok (), { h with shared := { h.shared with listener := h.shared.listener.map f } }) :=
  rfl

theorem knownEntry_books (id : String) :
    Triple (fun h => books h = b) (knownEntry id : SpeakerHubM ConfigEntry)
      (fun e h => b.registry.known id = .ok e ∧ books h = b) (fun _ h => books h = b) := by
  rintro h rfl
  rw [knownEntry_run']
  cases hk : h.registry.known id with
  | error f => rfl
  | ok e => exact ⟨hk, rfl⟩

/-- **Setting a speaker up**: either it fails with the bookkeeping as it was, the listener made at
most, or the entry has its speaker, routed by the running listener. -/
theorem speakerSetupEntry_triple (e : ConfigEntry) :
    Triple (fun h => books h = b) (speakerSetupEntry e)
      (fun r h => r = true ∧ ∃ p, books h = b.install e.entryId p)
      (fun _ h => books h = b ∨ books h = b.made) := by
  unfold speakerSetupEntry
  refine Triple.bind (Triple.lift (Q := fun _ h => books h = b) (fun _ _ _ hs => hs) (fun _ _ _ hs => .inl hs))
    fun host => ?_
  refine Triple.bind (Triple.get (Q := fun h0 h => h = h0 ∧ books h = b) fun _ hs => ⟨rfl, hs⟩) fun h0 => ?_
  dsimp only
  -- the speaker's first refresh runs on a state of its own; only its outcome matters here
  generalize run' speakerUpdate _ = res
  obtain ⟨r, p⟩ := res
  refine Triple.bind (Triple.set (Q := fun _ h => books h = b) fun _ ⟨hh, hs⟩ => hh ▸ hs) fun _ => ?_
  cases r with
  | error f =>
    exact Triple.bind (Triple.throw (Q := fun _ _ => False) fun _ hs => .inl hs) fun _ _ h => h.elim
  | ok u =>
    refine Triple.bind (startListener_triple.conseq (fun _ h => h) (fun _ _ h => h) (fun _ _ h => .inr h)) fun _ => ?_
    refine Triple.bind (addUnloadHook_books _ _) fun _ => ?_
    refine Triple.bind (putRuntime_books _ _) fun _ => ?_
    refine Triple.bind (Triple.forIn fun _ _ => Triple.bind (recordForwarded_books _ _ _) fun _ =>
      Triple.pure fun _ hs => hs) fun _ => ?_
    refine Triple.bind (modifyListener_books _) fun _ => ?_
    refine Triple.bind (putRuntime_books _ _) fun _ => ?_
    refine Triple.bind (listenToOptions_books _) fun _ => ?_
    refine Triple.pure fun h hh => ⟨rfl, p.withTask p.home.speaker.keepAliveTask.start, hh.trans ?_⟩
    -- the two writes of the runtime data and of the hooks are one each
    simp only [Books.install, Books.started, Books.hooksOf, entryHooks, assocPut_assocPut, lookup_assocPut,
      if_pos, Option.map_some, Option.getD_some, List.append_assoc, List.singleton_append]
    rfl

/-- **Releasing a speaker**: its device is no longer routed, and the listener stops when it was
the last. -/
theorem releaseSpeaker_triple {p : PolledSpeaker} (id : String) (hp : b.runtime.lookup id = some p) :
    Triple (fun h => books h = b) (releaseSpeaker id)
      (fun _ h => books h = b.release id p (p.withTask p.home.speaker.keepAliveTask.stop)) E := by
  rintro h rfl
  change h.runtime.lookup id = some p at hp
  unfold releaseSpeaker
  simp only [run'_bind, runtimeOf?_run', hp, modifyListener_run', putRuntime_run', run'_get]
  -- whether the listener stops
  cases hl : h.shared.listener with
  | none =>
    simp only [Option.map_none, run'_pure]
    simp [books, Books.release, hl, PolledSpeaker.withTask]
  | some l =>
    simp only [Option.map_some]
    by_cases he : (l.unregister p.home.speaker.deviceId).deviceIds.isEmpty = true
    · simp only [he, if_true, modifyListener_run']
      simp [books, Books.release, hl, stopIfIdle, he, PolledSpeaker.withTask]
    · simp only [he, if_false, run'_pure, Bool.false_eq_true]
      simp [books, Books.release, hl, stopIfIdle, he, PolledSpeaker.withTask]

/-- Unloading the hooks of an entry that has none only forgets them. -/
theorem runUnloadHooks_idle_books (id : String) (hidle : b.hooksOf id = []) :
    Triple (fun h => books h = b) (runUnloadHooks releaseSpeaker id) (fun _ h => books h = b.clearHooks id) E := by
  rintro h rfl
  rw [runUnloadHooks_none h id releaseSpeaker hidle]
  rfl

/-- Unloading the hooks of a loaded speaker entry releases its speaker. -/
theorem runUnloadHooks_loaded_books {p : PolledSpeaker} (id : String) (hl : b.hooksOf id = entryHooks)
    (hp : b.runtime.lookup id = some p) :
    Triple (fun h => books h = b) (runUnloadHooks releaseSpeaker id)
      (fun _ h => books h = (b.clearHooks id).release id p (p.withTask p.home.speaker.keepAliveTask.stop)) E := by
  rintro h rfl
  rw [runUnloadHooks_release h id releaseSpeaker hl]
  exact releaseSpeaker_triple (b := (books h).clearHooks id) id hp _ rfl

theorem speakerUnloadEntry_books (e : ConfigEntry) :
    Triple (fun h => books h = b) (speakerUnloadEntry e) (fun r h => r = true ∧ books h = b) E := by
  rintro h rfl
  exact ⟨rfl, rfl⟩

/-- **Refreshing the speaker of an entry whose id is known** changes the entry's runtime data, not
its device; an entry without runtime data fails with the bookkeeping as it was. -/
theorem refreshSpeakerEntry_books (id : String) (hknown : b.deviceOf id ≠ some "") :
    Triple (fun h => books h = b) (refreshSpeakerEntry id)
      (fun _ h => ∃ p p', b.runtime.lookup id = some p ∧ p'.home.speaker.deviceId = p.home.speaker.deviceId ∧
        books h = b.refresh id p')
      (fun _ h => books h = b) := by
  rintro h rfl
  unfold refreshSpeakerEntry
  rw [onRuntime_run']
  cases hp : h.runtime.lookup id with
  | none => rfl
  | some p =>
    -- the coordinator's update runs on the entry's speaker, whose id is known
    have hid : p.home.speaker.deviceId ≠ "" := by
      intro h0
      apply hknown
      simp [Books.deviceOf, books, hp, h0]
      rfl
    have hinfo := speakerUpdate_info (p := Wired.rewire p h.outside) hid
    rcases hu : speakerUpdate.run' (Wired.rewire p h.outside) with ⟨r, q⟩
    rw [hu] at hinfo
    -- whether the update succeeded is all the coordinator records
    have hq : ∀ ok : Bool,
        let p' : PolledSpeaker := { q with coordinator := { q.coordinator with lastUpdateSuccess := ok } }
        books { h with runtime := assocPut h.runtime id p', outside := q.home.outside } = (books h).refresh id p' :=
      fun _ => rfl
    cases r with
    | ok u =>
      simp only [run'_bind, run'_attempt, hu, run'_pure, run'_modify]
      exact ⟨p, { q with coordinator := { q.coordinator with lastUpdateSuccess := true } }, hp,
        Device.deviceId_congr hinfo, hq true⟩
    | error f =>
      simp only [run'_bind, run'_attempt, hu, run'_pure, run'_modify]
      exact ⟨p, { q with coordinator := { q.coordinator with lastUpdateSuccess := false } }, hp,
        Device.deviceId_congr hinfo, hq false⟩

end Steps

/-! ### The invariant along the steps on entries -/

section Invariant

variable {b : Books}

/-- After a failed setup of an entry that was not loaded, with the bookkeeping as it was or the
listener made, the hooks run (there are none) and the entry's state is set: the invariant holds. -/
theorem setupFailure_books {c : Books} (id : String) (f : Fault) (hc : c.Serves) (hnot : ¬ c.registry.Loaded id) :
    Triple (fun h => books h = c)
      (do
        let (state, reason, hooks) := setupFailure f
        if hooks then runUnloadHooks releaseSpeaker id
        setEntryState id state reason
        throw f : SpeakerHubM Bool)
      (fun _ h => (books h).DevicesApart → (books h).Serves) (fun _ h => (books h).Serves) := by
  have hstate := setupFailure_state_ne_loaded f
  generalize setupFailure f = sf at hstate ⊢
  obtain ⟨state, reason, hooks⟩ := sf
  have hthrow (c' : Books) (hc' : c'.Serves) (hnot' : ¬ c'.registry.Loaded id) :
      Triple (fun h => books h = c') (do setEntryState id state reason; throw f : SpeakerHubM Bool)
        (fun _ h => (books h).DevicesApart → (books h).Serves) (fun _ h => (books h).Serves) :=
    Triple.bind (setEntryState_books id state reason) fun _ =>
      Triple.throw fun _ hh => hh ▸ hc'.setState hnot' reason hstate
  cases hooks with
  | true =>
    exact Triple.bind (runUnloadHooks_idle_books id (hc.idleHooks id hnot)) fun _ =>
      hthrow _ (hc.clearHooks hnot) hnot
  | false => exact hthrow c hc hnot

/-- What an attempt to set up a speaker leaves of the bookkeeping `c`: the speaker installed when
it succeeds, the bookkeeping as it was or with the listener made when it fails. -/
def SetupLeaves (c : Books) (id : String) : Except Fault Bool → SpeakerHub → Prop
  | .ok ok, h => ok = true ∧ ∃ p, books h = c.install id p
  | .error _, h => books h = c ∨ books h = c.made

/-- **Setting up an entry that is not loaded keeps the invariant**; when the entry loads, the
invariant needs its device apart from the other loaded entries'. -/
theorem setUp_books (id : String) (hb : b.Serves) (hnot : ¬ b.registry.Loaded id) :
    Triple (fun h => books h = b) (speakerIntegration.setUp id)
      (fun _ h => (books h).DevicesApart → (books h).Serves) (fun _ h => (books h).Serves) := by
  unfold Integration.setUp setupEntry
  refine Triple.bind ((knownEntry_books id).conseq (fun _ h => h) (fun _ _ h => h) (fun _ _ h => h ▸ hb))
    fun e => Triple.of_fact fun hke => ?_
  have heid : e.entryId = id := Registry.known_entryId hke
  -- the entry is marked in progress, which it was not loaded before either
  have hs1 : (b.setState id .setupInProgress .null).Serves := hb.setState hnot .null (by intro h; cases h)
  have hnot1 : ¬ (b.setState id .setupInProgress .null).registry.Loaded id := fun h =>
    ((Books.loaded_setState_of_ne b id id .null (by intro h; cases h)).1 h).1 rfl
  have hfind1 : ((b.setState id .setupInProgress .null).registry.find? id).isSome := by
    unfold Books.setState
    rw [Registry.find?_modify, if_pos rfl, Option.isSome_map]
    · exact Registry.find?_isSome_of_known hke
    · intro _
      rfl
  refine Triple.bind (setEntryState_books id .setupInProgress .null) fun _ => ?_
  refine Triple.bind (Triple.attempt (Q := SetupLeaves (b.setState id .setupInProgress .null) id)
    (heid ▸ speakerSetupEntry_triple _)) fun r => ?_
  cases r with
  | ok ok =>
    -- the entry loads with its speaker
    refine Triple.of_fact fun hok => Triple.of_exists fun p => ?_
    subst hok
    refine Triple.bind (setEntryState_books id _ _) fun _ => Triple.pure fun h hh hapart => ?_
    rw [hh] at hapart ⊢
    exact hs1.install hnot1 hfind1 p hapart
  | error f =>
    -- the setup failed before the speaker was installed
    refine Triple.conseq (Triple.of_exists (P := fun c h => books h = c ∧ c.Serves ∧ ¬ c.registry.Loaded id)
      fun c => ?_) (fun h hh => ?_) (fun _ _ h => h) (fun _ _ h => h)
    · refine Triple.conseq (P := fun h => (c.Serves ∧ ¬ c.registry.Loaded id) ∧ books h = c)
        (Triple.of_fact fun hc => setupFailure_books id f hc.1 hc.2)
        (fun _ hh => ⟨hh.2, hh.1⟩) (fun _ _ h => h) (fun _ _ h => h)
    · rcases hh with hh | hh
      · exact ⟨_, hh, hs1, hnot1⟩
      · exact ⟨_, hh, hs1.made, hnot1⟩

/-- **Unloading an entry keeps the invariant.** -/
theorem unload_books (id : String) (hb : b.Serves) :
    Triple (fun h => books h = b) (speakerIntegration.unload id)
      (fun _ h => (books h).Serves) (fun _ h => (books h).Serves) := by
  unfold Integration.unload unloadEntry
  refine Triple.bind ((knownEntry_books id).conseq (fun _ h => h) (fun _ _ h => h.2) (fun _ _ h => h ▸ hb))
    fun e => Triple.bind (speakerUnloadEntry_books e) fun ok => Triple.of_fact fun hok => ?_
  subst hok
  rw [if_pos rfl]
  by_cases hl : b.registry.Loaded id
  · -- a loaded entry releases its speaker
    obtain ⟨p, hp⟩ := Option.isSome_iff_exists.1 (hb.runtime id hl)
    exact Triple.bind (runUnloadHooks_loaded_books id (hb.loadedHooks id hl) hp) fun _ =>
      Triple.bind (setEntryState_books id _ _) fun _ => Triple.pure fun _ hh => hh ▸ hb.unload hl hp
  · -- any other entry has nothing to release
    have hs : (b.clearHooks id).Serves := hb.clearHooks hl
    exact Triple.bind (runUnloadHooks_idle_books id (hb.idleHooks id hl)) fun _ =>
      Triple.bind (setEntryState_books id _ _) fun _ => Triple.pure fun _ hh =>
        hh ▸ hs.setState hl .null (by intro h; cases h)

end Invariant

/-! ### Runs of setups and unloads -/

/-- The loaded entries' devices are apart wherever the listener follows them. -/
theorem Books.Serves.devicesApart {b : Books} (hb : b.Serves) : b.DevicesApart := by
  intro a c key ha hc hda hdc
  have h1 := (hb.routes key a).2 ⟨ha, hda⟩
  have h2 := (hb.routes key c).2 ⟨hc, hdc⟩
  exact Option.some.inj (h1.symm.trans h2)

/-- A hub with nothing loaded, no listener and no unload hooks satisfies the invariant. -/
theorem Books.serves_of_idle {b : Books} (hidle : ∀ id, ¬ b.registry.Loaded id) (hnone : b.listener = none)
    (hhooks : b.hooks = []) : b.Serves where
  routes key id := by
    simp only [Books.handler, hnone, Option.bind_none, reduceCtorEq, false_iff, not_and]
    exact fun h => absurd h (hidle id)
  running l hl := by simp [hnone] at hl
  runtime id h := absurd h (hidle id)
  loadedHooks id h := absurd h (hidle id)
  idleHooks id _ := by simp [Books.hooksOf, hhooks]

/-- One step of the hub on its speaker entries, in whatever outside world the step finds: an entry
that is not loaded is set up, and the loaded entries' devices stay apart; an entry is unloaded; or
the coordinator of an entry whose speaker's id is known refreshes it. -/
inductive EntryStep : SpeakerHub → SpeakerHub → Prop
  | setUp (h : SpeakerHub) (o : Outside) (id : String) (hnot : ¬ h.registry.Loaded id)
      (hapart : (books ((speakerIntegration.setUp id).run' { h with outside := o }).2).DevicesApart) :
      EntryStep h ((speakerIntegration.setUp id).run' { h with outside := o }).2
  | unload (h : SpeakerHub) (o : Outside) (id : String) :
      EntryStep h ((speakerIntegration.unload id).run' { h with outside := o }).2
  | refresh (h : SpeakerHub) (o : Outside) (id : String) (hknown : (books h).deviceOf id ≠ some "") :
      EntryStep h ((refreshSpeakerEntry id).run' { h with outside := o }).2

/-- **Each step keeps the invariant.** -/
theorem EntryStep.serves {h h' : SpeakerHub} (hs : EntryStep h h') (hb : (books h).Serves) : (books h').Serves := by
  cases hs with
  | setUp o id hnot hapart =>
    have ht := setUp_books id hb hnot { h with outside := o } rfl
    revert hapart
    rcases hr : (speakerIntegration.setUp id).run' { h with outside := o } with ⟨_ | _, h'⟩ <;> rw [hr] at ht
    · exact fun _ => ht
    · exact ht
  | unload o id =>
    have ht := unload_books id hb { h with outside := o } rfl
    rcases hr : (speakerIntegration.unload id).run' { h with outside := o } with ⟨_ | _, h'⟩ <;> rw [hr] at ht <;>
      exact ht
  | refresh o id hknown =>
    have ht := refreshSpeakerEntry_books id hknown { h with outside := o } rfl
    rcases hr : (refreshSpeakerEntry id).run' { h with outside := o } with ⟨_ | _, h'⟩ <;> rw [hr] at ht
    · exact ht ▸ hb
    · obtain ⟨p, p', hp, hdev, hh⟩ := ht
      exact hh ▸ hb.refresh hp hdev

/-- **Every run keeps the invariant.** -/
theorem EntryStep.serves_run {h0 h : SpeakerHub} (hrun : Relation.ReflTransGen EntryStep h0 h)
    (hb : (books h0).Serves) : (books h).Serves := by
  induction hrun with
  | refl => exact hb
  | tail _ hs ih => exact hs.serves ih

/-- **The shared listener follows the loaded speaker entries.**  Along every run of setups of
entries that are not loaded, of unloads and of refreshes of speakers whose id is known, from a hub with nothing loaded, no listener and no
unload hooks, in which the loaded entries' devices stay apart: every loaded entry has a speaker
whose device the running listener routes to the entry, and once no entry is loaded no device is
registered and the listener is stopped. -/
theorem speakerListener_law (h0 h : SpeakerHub) (hidle : ∀ id, ¬ h0.registry.Loaded id)
    (hnone : h0.shared.listener = none) (hhooks : h0.unloadHooks = [])
    (hrun : Relation.ReflTransGen EntryStep h0 h) :
    (∀ id, h.registry.Loaded id → ∃ p l, h.runtime.lookup id = some p ∧ h.shared.listener = some l ∧
        l.handlerOf p.home.speaker.deviceId = some id ∧ l.running = true) ∧
    ((∀ id, ¬ h.registry.Loaded id) → ∀ l, h.shared.listener = some l → l.deviceIds = [] ∧ l.running = false) := by
  have hb : (books h).Serves := EntryStep.serves_run hrun (Books.serves_of_idle hidle hnone hhooks)
  refine ⟨fun id hl => ?_, fun hnoload l hl => ?_⟩
  · -- a loaded entry's device is routed to it, so the listener has a device and runs
    obtain ⟨p, hp⟩ := Option.isSome_iff_exists.1 (hb.runtime id hl)
    have hdev : (books h).deviceOf id = some (Text.upper p.home.speaker.deviceId) := by
      rw [Books.deviceOf, hp]
      rfl
    have hroute := (hb.routes _ id).2 ⟨hl, hdev⟩
    obtain ⟨l, hl', hh⟩ := Option.bind_eq_some_iff.1 hroute
    have hmem : Text.upper p.home.speaker.deviceId ∈ l.deviceIds := (Listener.mem_deviceIds l _).2 (by rw [hh]; rfl)
    refine ⟨p, l, hp, hl', hh, (hb.running l hl').2 fun hnil => ?_⟩
    rw [hnil] at hmem
    exact List.not_mem_nil hmem
  · -- with nothing loaded the listener routes no device, so it does not run
    have hnil : l.deviceIds = [] := by
      refine List.eq_nil_iff_forall_not_mem.2 fun key hkey => ?_
      obtain ⟨x, hx⟩ := Option.isSome_iff_exists.1 ((Listener.mem_deviceIds l key).1 hkey)
      have hroute : (books h).handler key = some x := by simp [Books.handler, books, hl, hx]
      exact hnoload x ((hb.routes key x).1 hroute).1
    refine ⟨hnil, ?_⟩
    cases hr : l.running
    · rfl
    · exact absurd hnil ((hb.running l hl).1 hr)

/-- An entry of the speaker at `host`, titled by its id. -/
def speakerEntry (id host : String) : ConfigEntry :=
  { entryId := id, domain := speakerDomain, title := .str id, data := .obj [("host", .str host)] }

/-- Two speakers on the network, with the device ids `a1` and `b2` and one zone each; every other
request succeeds. -/
def twoSpeakersOutside : Outside :=
  { network := { routes := [
      { pattern := "192.168.1.10/YamahaExtendedControl/v1/system/getDeviceInfo",
        outcome := .answered 200 "\x7b\"response_code\": 0, \"device_id\": \"a1\"\x7d" "OK" },
      { pattern := "192.168.1.11/YamahaExtendedControl/v1/system/getDeviceInfo",
        outcome := .answered 200 "\x7b\"response_code\": 0, \"device_id\": \"b2\"\x7d" "OK" },
      { pattern := "getFeatures",
        outcome := .answered 200 "\x7b\"response_code\": 0, \"zone\": [\x7b\"id\": \"main\"\x7d]\x7d" "OK" },
      { outcome := .answered 200 "\x7b\"response_code\": 0\x7d" "OK" }] } }

/-- A hub with an entry for each of the two speakers, neither set up. -/
def twoSpeakerHub : SpeakerHub :=
  { registry := { entries := [speakerEntry "m1" "192.168.1.10", speakerEntry "m2" "192.168.1.11"] },
    shared := {}, outside := twoSpeakersOutside }

/-- Both entries set up, the first one's speaker refreshed, then both entries unloaded: while both
are loaded each device is routed to its entry by a running listener, and at the end the listener
routes nothing and is stopped. -/
theorem speakerListener_law_twoSpeakers :
    let h1 := ((speakerIntegration.setUp "m1").run' twoSpeakerHub).2
    let h2 := ((speakerIntegration.setUp "m2").run' h1).2
    let h3 := ((refreshSpeakerEntry "m1").run' h2).2
    let h5 := ((speakerIntegration.unload "m2").run' ((speakerIntegration.unload "m1").run' h3).2).2
    (∀ id, h3.registry.Loaded id → ∃ p l, h3.runtime.lookup id = some p ∧ h3.shared.listener = some l ∧
        l.handlerOf p.home.speaker.deviceId = some id ∧ l.running = true) ∧
    ((∀ id, ¬ h5.registry.Loaded id) → ∀ l, h5.shared.listener = some l → l.deviceIds = [] ∧ l.running = false) := by
  intro h1 h2 h3 h5
  have hidle : ∀ id, ¬ twoSpeakerHub.registry.Loaded id := by
    rintro id ⟨e, he, hs⟩
    rcases List.mem_cons.1 (List.mem_of_find?_eq_some he) with rfl | hm
    · cases hs
    · rw [List.mem_singleton.1 hm] at hs
      cases hs
  -- what the provisos of the steps read of the hub after one setup and after two
  have hs1 : ¬ ((speakerIntegration.setUp "m1").run' twoSpeakerHub).2.registry.Loaded "m2" ∧
      (books ((speakerIntegration.setUp "m1").run' twoSpeakerHub).2).loadedDevices.Nodup := by
    decide +kernel
  have hs2 : (books ((speakerIntegration.setUp "m2").run'
        ((speakerIntegration.setUp "m1").run' twoSpeakerHub).2).2).loadedDevices.Nodup ∧
      (books ((speakerIntegration.setUp "m2").run'
        ((speakerIntegration.setUp "m1").run' twoSpeakerHub).2).2).deviceOf "m1" ≠ some "" := by
    decide +kernel
  -- each step is taken in the outside world the hub has
  have r1 : EntryStep twoSpeakerHub h1 :=
    .setUp twoSpeakerHub twoSpeakerHub.outside "m1" (hidle "m1") (Books.devicesApart_of_nodup hs1.2)
  have r2 : EntryStep h1 h2 := by
    have r := EntryStep.setUp h1 h1.outside "m2" hs1.1
    rw [Home.with_outside_self h1 rfl] at r
    exact r (Books.devicesApart_of_nodup hs2.1)
  have r3 : EntryStep h2 h3 := by
    have r := EntryStep.refresh h2 h2.outside "m1" hs2.2
    rwa [Home.with_outside_self h2 rfl] at r
  have run3 : Relation.ReflTransGen EntryStep twoSpeakerHub h3 := ((Relation.ReflTransGen.single r1).tail r2).tail r3
  have run5 : Relation.ReflTransGen EntryStep twoSpeakerHub h5 := by
    have r4 := EntryStep.unload h3 h3.outside "m1"
    rw [Home.with_outside_self h3 rfl] at r4
    have r5 := EntryStep.unload ((speakerIntegration.unload "m1").run' h3).2
      ((speakerIntegration.unload "m1").run' h3).2.outside "m2"
    rw [Home.with_outside_self _ rfl] at r5
    exact (run3.tail r4).tail r5
  exact ⟨(speakerListener_law twoSpeakerHub h3 hidle rfl rfl run3).1,
    (speakerListener_law twoSpeakerHub h5 hidle rfl rfl run5).2⟩

end Speaker
end ConnectedHome
