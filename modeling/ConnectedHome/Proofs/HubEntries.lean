import ConnectedHome.Hub.Home
/-!
# HubEntries — what the hub's bookkeeping of entries reads back

The hub keeps its entries' runtime data and unload hooks in association lists written with
`assocPut` and read with `List.lookup`, and the entries themselves in a registry changed in place
(`Registry.modify`) and read by id (`Registry.find?`).

- `lookup_assocPut`: writing a key sets what the key reads and leaves every other key alone;
- `Registry.find?_modify`: changing an entry in place changes what its id finds and no other;
- `Registry.loaded_setState`: after an entry's state is set, the loaded entries are those that
  were, with that entry loaded exactly when the new state is `loaded`;
- `runUnloadHooks_none`, `runUnloadHooks_release`: unloading an entry runs nothing when it has no
  hooks, and releases its device when it has the hooks a set-up device leaves.
-/
namespace ConnectedHome
namespace Hub

variable {β : Type}

/-- Reading an association list is finding the first pair with the key. -/
theorem lookup_eq_find (xs : List (String × β)) (k : String) :
    xs.lookup k = (xs.find? (·.1 == k)).map (·.2) := by
  induction xs with
  | nil => rfl
  | cons x xs ih =>
    obtain ⟨a, b⟩ := x
    by_cases hk : a = k
    · subst hk
      simp
    · have hka : (k == a) = false := beq_false_of_ne fun h => hk h.symm
      simp [List.lookup_cons, hka, hk, ih]

/-- Writing key `k` sets what `k` finds and leaves every other key alone. -/
theorem find_assocPut (xs : List (String × β)) (k key : String) (v : β) :
    ((assocPut xs k v).find? (·.1 == key)).map (·.2) =
      if k = key then some v else (xs.find? (·.1 == key)).map (·.2) := by
  unfold assocPut
  split
  · -- `k` is there: its value is replaced where it stands, the keys stay
    rename_i hk
    rw [List.find?_map]
    have hp : ((fun x : String × β => x.1 == key) ∘ fun p => if p.1 == k then (k, v) else p) = (·.1 == key) := by
      funext ⟨k', v'⟩
      by_cases h : k' = k
      · subst h
        simp
      · simp [h]
    rw [hp]
    cases hf : xs.find? (·.1 == key) with
    | none =>
      -- no pair has `key`, so `key` is not `k`, which some pair has
      split
      · subst key
        obtain ⟨x, hx, hxk⟩ := List.any_eq_true.1 hk
        exact absurd (List.find?_eq_none.1 hf x hx) (by simp [hxk])
      · rfl
    | some y =>
      have hy : y.1 = key := by simpa using List.find?_some hf
      by_cases hkk : k = key
      · simp [hy, hkk]
      · have hyk : y.1 ≠ k := fun e => hkk (e ▸ hy)
        simp [hyk, hkk]
  · -- `k` is new: it goes at the end, after every other key
    rename_i hk
    rw [List.find?_append]
    split
    · subst key
      have hnone : xs.find? (·.1 == k) = none := by
        rw [List.find?_eq_none]
        intro x hx hxk
        exact hk (List.any_eq_true.2 ⟨x, hx, hxk⟩)
      simp [hnone]
    · rename_i hne
      cases xs.find? (·.1 == key) with
      | some y => rfl
      | none => simp [hne]

/-- **Writing a key sets what it reads and leaves every other key alone.** -/
@[simp] theorem lookup_assocPut (xs : List (String × β)) (k key : String) (v : β) :
    (assocPut xs k v).lookup key = if k = key then some v else xs.lookup key := by
  rw [lookup_eq_find, lookup_eq_find, find_assocPut]

/-- Writing a key twice keeps the second value. -/
@[simp] theorem assocPut_assocPut (xs : List (String × β)) (k : String) (v w : β) :
    assocPut (assocPut xs k v) k w = assocPut xs k w := by
  unfold assocPut
  by_cases hk : xs.any (·.1 == k) = true
  · -- the key stands where it stood, and both writes replace it there
    have hk' : (xs.map fun p => if p.1 == k then (k, v) else p).any (·.1 == k) = true := by
      obtain ⟨x, hx, hxk⟩ := List.any_eq_true.1 hk
      exact List.any_eq_true.2 ⟨(k, v), List.mem_map.2 ⟨x, hx, by simp [hxk]⟩, by simp⟩
    rw [if_pos hk, if_pos hk', if_pos hk, List.map_map]
    congr 1
    funext p
    by_cases hp : p.1 = k <;> simp [hp]
  · -- the key goes at the end, and the second write replaces it there
    have hk' : (xs ++ [(k, v)]).any (·.1 == k) = true := by simp
    rw [if_neg hk, if_pos hk', if_neg hk, List.map_append]
    have hxs : (xs.map fun p => if p.1 == k then (k, w) else p) = xs := by
      rw [List.map_congr_left (g := id), List.map_id]
      intro p hp
      have hpk : (p.1 == k) = false := by
        cases h : p.1 == k
        · rfl
        · exact absurd (List.any_eq_true.2 ⟨p, hp, h⟩) hk
      simp [hpk]
    rw [hxs]
    simp

namespace Registry

/-- Changing an entry in place, keeping its id, changes what its id finds and no other. -/
theorem find?_modify (r : Registry) (id x : String) (f : ConfigEntry → ConfigEntry)
    (hf : ∀ e, (f e).entryId = e.entryId) :
    (r.modify id f).find? x = if x = id then (r.find? x).map f else r.find? x := by
  unfold modify find?
  rw [List.find?_map]
  have hp : ((·.entryId == x) ∘ fun e => if e.entryId == id then f e else e) = (·.entryId == x) := by
    funext e
    simp only [Function.comp]
    split <;> simp [hf]
  rw [hp]
  split
  · subst x
    cases hfind : r.entries.find? (·.entryId == id) with
    | none => rfl
    | some e =>
      have he : e.entryId = id := by simpa using List.find?_some hfind
      simp [he]
  · rename_i hne
    cases hfind : r.entries.find? (·.entryId == x) with
    | none => rfl
    | some e =>
      have he : e.entryId = x := by simpa using List.find?_some hfind
      have hei : e.entryId ≠ id := fun h => hne (he ▸ h)
      simp [hei]

/-- The entry a known id names has that id. -/
theorem known_entryId {r : Registry} {id : String} {e : ConfigEntry} (h : r.known id = .ok e) :
    e.entryId = id := by
  unfold known at h
  split at h
  · rename_i e' hf
    cases h
    simpa using List.find?_some hf
  · cases h

/-- Whether entry `id` is loaded. -/
def Loaded (r : Registry) (id : String) : Prop := ∃ e, r.find? id = some e ∧ e.state = .loaded

instance (r : Registry) (id : String) : Decidable (r.Loaded id) :=
  match h : r.find? id with
  | some e =>
    if hs : e.state = .loaded then isTrue ⟨e, h, hs⟩
    else isFalse fun ⟨e', he', hs'⟩ => by
      rw [h] at he'
      cases he'
      exact hs hs'
  | none => isFalse fun ⟨e', he', _⟩ => by
    rw [h] at he'
    cases he'

/-- The registry with the state and reason of entry `id` set. -/
theorem loaded_setState (r : Registry) (id x : String) (s : EntryState) (v : Value) :
    (r.modify id fun e => { e with state := s, reason := v }).Loaded x ↔
      (x = id ∧ (r.find? id).isSome ∧ s = .loaded) ∨ (x ≠ id ∧ r.Loaded x) := by
  unfold Loaded
  rw [find?_modify r id x (fun e => { e with state := s, reason := v }) fun _ => rfl]
  by_cases hx : x = id
  · subst x
    cases r.find? id <;> simp
  · simp [hx]

theorem find?_isSome_of_known {r : Registry} {id : String} {e : ConfigEntry} (h : r.known id = .ok e) :
    (r.find? id).isSome := by
  unfold known at h
  split at h
  · rename_i hf
    rw [hf]
    rfl
  · cases h

theorem loaded_known {r : Registry} {id : String} (h : r.Loaded id) : ∃ e, r.known id = .ok e := by
  obtain ⟨e, he, -⟩ := h
  exact ⟨e, by simp [known, he]⟩

end Registry

/-- A failed setup never leaves its entry loaded. -/
theorem setupFailure_state_ne_loaded (f : Fault) : (setupFailure f).1 ≠ .loaded := by
  unfold setupFailure
  split <;> intro h <;> cases h

/-- A hub put in the outside world it has is itself. -/
theorem Home.with_outside_self {σ ρ : Type} (h : Home σ ρ) {o : Outside} (ho : o = h.outside) :
    { h with outside := o } = h := by
  subst ho
  rfl

/-! ### The hub's steps on entries, run -/

section Run

open Exec

variable {σ ρ : Type} (h : Home σ ρ) (id : String)

@[simp] theorem knownEntry_run' : (knownEntry id : HomeM σ ρ ConfigEntry).run' h = (h.registry.known id, h) := rfl

@[simp] theorem runtimeOf?_run' : (runtimeOf? id : HomeM σ ρ (Option ρ)).run' h = (.ok (h.runtime.lookup id), h) := rfl

@[simp] theorem putRuntime_run' (r : ρ) :
    (putRuntime id r : HomeM σ ρ Unit).run' h = (.ok (), { h with runtime := assocPut h.runtime id r }) := rfl

@[simp] theorem setEntryState_run' (s : EntryState) (v : Value) :
    (setEntryState id s v : HomeM σ ρ Unit).run' h =
      (.ok (), { h with registry := h.registry.modify id fun e => { e with state := s, reason := v } }) := rfl

/-- Running a computation on the runtime data of an entry that has some: the data is rewired to
the hub's outside, and written back with the outside it leaves. -/
theorem onRuntime_run' [Wired ρ] {α : Type} (x : Exec ρ α) :
    (onRuntime id x : HomeM σ ρ α).run' h =
      match h.runtime.lookup id with
      | none => (.error noRuntimeData, h)
      | some r =>
        ((x.run' (Wired.rewire r h.outside)).1,
          { h with runtime := assocPut h.runtime id (x.run' (Wired.rewire r h.outside)).2,
                   outside := Wired.outside (x.run' (Wired.rewire r h.outside)).2 }) := by
  unfold onRuntime
  simp only [run'_bind, run'_get]
  cases h.runtime.lookup id with
  | none => rfl
  | some r => rcases x.run' (Wired.rewire r h.outside) with ⟨_ | _, _⟩ <;> rfl

variable (release : String → HomeM σ ρ Unit)

/-- Unloading hooks where there are none only forgets them. -/
theorem runUnloadHooks_none (hh : (h.unloadHooks.lookup id).getD [] = []) :
    (runUnloadHooks release id).run' h = (.ok (), { h with unloadHooks := assocPut h.unloadHooks id [] }) := by
  unfold runUnloadHooks
  simp only [run'_bind, run'_get, run'_modify, hh, List.reverse_nil, List.forIn_nil, run'_pure]

/-- The hooks of an entry that released its device and listened to its options: the options
listener is dropped, then the device released. -/
theorem runUnloadHooks_release (hh : (h.unloadHooks.lookup id).getD [] = [.releaseDevice, .dropOptionsListener]) :
    (runUnloadHooks release id).run' h =
      (release id).run'
        { h with unloadHooks := assocPut h.unloadHooks id [], optionsListeners := h.optionsListeners.erase id } := by
  unfold runUnloadHooks
  simp only [run'_bind, run'_get, run'_modify, hh, List.reverse_cons, List.reverse_nil, List.nil_append,
    List.singleton_append, List.forIn_cons, List.forIn_nil, run'_pure]
  rcases (release id).run' _ with ⟨_ | _, _⟩ <;> rfl

end Run

end Hub
end ConnectedHome
