import ConnectedHome.Hub.Registry
import ConnectedHome.Hub.Flow
import ConnectedHome.Outside
/-!
# The hub

The hub holds the registry of entries and, for every entry an integration set up, the entry's
runtime data (`Home`): for an integration whose runtime data is of type `ρ` and whose shared data
(one value for all its entries) is of type `σ`.  Runtime data reaches the outside world through
the hub, which owns it (`Wired`, `onRuntime`).

Setting an entry up (`setupEntry`) marks it in progress and then ends in one of these states:

| how the integration's setup ended | state | reason | unload hooks run |
|---|---|---|---|
| returned true / false | loaded / setup error | none | no |
| the entry cannot be set up at all | setup error | the message, or `Unknown fatal config entry error` | yes |
| the credentials were refused | setup error | the message, or `could not authenticate` | yes |
| not ready yet | retry | the message, or none | yes |
| any other fault | setup error | none | no |

An entry registers hooks that run, last registered first, when it is unloaded (`UnloadHook`):
dropping its options listener and releasing its device.  Unloading (`unloadEntry`) runs the
integration's unload and, when that succeeds, the hooks; the entry is then not loaded and keeps
its runtime data.

Changing an entry's options (`updateOptions`) calls the entry's options listener once per
registration, but only when the options changed.

Every step of the hub is also recorded in a journal (`Journal`): the platforms set up and torn
down, the reloads asked for, the results of flows the hub started and the refreshes asked of
coordinators.
-/
namespace ConnectedHome.Hub

/-- What the hub did during one step beside answering it. -/
structure Journal where
  /-- Platform setups: entry, platform and the unique ids of its entities. -/
  forwarded : List Value := []
  /-- Platform teardowns: entry and platforms. -/
  unloadedPlatforms : List Value := []
  reloads : List String := []
  /-- Results of the flows the hub started. -/
  flows : List Value := []
  refreshRequested : Nat := 0
deriving Inhabited

/-- What runs when an entry is unloaded. -/
inductive UnloadHook where
  /-- Stops calling the entry's options listener. -/
  | dropOptionsListener
  /-- Releases what the entry's device holds of the integration's shared resources. -/
  | releaseDevice
deriving Inhabited

/-- The hub, for an integration with shared data `σ` and runtime data `ρ`. -/
structure Home (σ ρ : Type) where
  registry : Registry
  /-- The runtime data of the entries that have some. -/
  runtime : List (String × ρ) := []
  shared : σ
  /-- The entries whose options listener is registered, once per registration. -/
  optionsListeners : List String := []
  /-- The unload hooks of each entry, in registration order. -/
  unloadHooks : List (String × List UnloadHook) := []
  /-- The registered services, `domain.service`. -/
  services : List String := []
  outside : Outside
  journal : Journal := {}

/-- Computations of the hub. -/
abbrev HomeM (σ ρ : Type) := Exec (Home σ ρ)

/-- Runtime data that reaches the outside world: the hub plugs its own in before running it. -/
class Wired (ρ : Type) where
  outside : ρ → Outside
  rewire : ρ → Outside → ρ

/-- The list with the value of key `k` replaced in place, or appended. -/
def assocPut {β : Type} (xs : List (String × β)) (k : String) (v : β) : List (String × β) :=
  if xs.any (·.1 == k) then xs.map fun p => if p.1 == k then (k, v) else p else xs ++ [(k, v)]

/-- The fault of reading runtime data an entry does not have. -/
def noRuntimeData : Fault := .noAttribute "'ConfigEntry' object has no attribute 'runtime_data'"

variable {σ ρ : Type}

/-- The entry with id `id`, which must exist. -/
def knownEntry (id : String) : HomeM σ ρ ConfigEntry := do Exec.lift ((← get).registry.known id)

/-- Changes the registry. -/
def modifyRegistry (f : Registry → Registry) : HomeM σ ρ Unit :=
  modify fun h => { h with registry := f h.registry }

/-- Sets the state of an entry and the reason for it. -/
def setEntryState (id : String) (state : EntryState) (reason : Value) : HomeM σ ρ Unit :=
  modifyRegistry (·.modify id fun e => { e with state, reason })

/-- The runtime data of an entry, if it has some. -/
def runtimeOf? (id : String) : HomeM σ ρ (Option ρ) := do return (← get).runtime.lookup id

/-- Sets the runtime data of an entry. -/
def putRuntime (id : String) (r : ρ) : HomeM σ ρ Unit :=
  modify fun h => { h with runtime := assocPut h.runtime id r }

/-- Changes the shared data. -/
def modifyShared (f : σ → σ) : HomeM σ ρ Unit := modify fun h => { h with shared := f h.shared }

/-- Runs a computation on the runtime data of entry `id` with the hub's outside world plugged
in; the outside world it leaves is the hub's from then on. -/
def onRuntime {α : Type} [Wired ρ] (id : String) (x : Exec ρ α) : HomeM σ ρ α := do
  let h ← get
  match h.runtime.lookup id with
  | none => throw noRuntimeData
  | some r =>
    let (res, r') := x.run' (Wired.rewire r h.outside)
    set { h with runtime := assocPut h.runtime id r', outside := Wired.outside r' }
    Exec.lift res

/-- Runs a computation on the hub's outside world. -/
def onOutside {α : Type} (x : Exec Outside α) : HomeM σ ρ α :=
  Exec.focus (·.outside) (fun h o => { h with outside := o }) x

/-- Changes the journal. -/
def modifyJournal (f : Journal → Journal) : HomeM σ ρ Unit :=
  modify fun h => { h with journal := f h.journal }

/-- Records a platform set up for an entry with its entities. -/
def recordForwarded (id platform : String) (entities : List String) : HomeM σ ρ Unit :=
  modifyJournal fun j => { j with forwarded := j.forwarded ++ [.obj [("entry_id", .str id),
    ("platform", .str platform), ("entities", Value.ofStrings entities)]] }

/-- Records the platforms of an entry torn down. -/
def recordUnloaded (id : String) (platforms : List String) : HomeM σ ρ Unit :=
  modifyJournal fun j => { j with unloadedPlatforms := j.unloadedPlatforms ++
    [.obj [("entry_id", .str id), ("platforms", Value.ofStrings platforms)]] }

/-- Records a reload asked for an entry. -/
def recordReload (id : String) : HomeM σ ρ Unit :=
  modifyJournal fun j => { j with reloads := j.reloads ++ [id] }

/-- Records the result of a flow the hub started. -/
def recordFlow (result : Value) : HomeM σ ρ Unit :=
  modifyJournal fun j => { j with flows := j.flows ++ [result] }

/-- Records a refresh asked of a coordinator. -/
def recordRefresh : HomeM σ ρ Unit :=
  modifyJournal fun j => { j with refreshRequested := j.refreshRequested + 1 }

/-- Registers a service once. -/
def registerService (name : String) : HomeM σ ρ Unit :=
  modify fun h => if h.services.contains name then h else { h with services := h.services ++ [name] }

/-- Adds an unload hook to an entry. -/
def addUnloadHook (id : String) (hook : UnloadHook) : HomeM σ ρ Unit :=
  modify fun h => { h with unloadHooks := assocPut h.unloadHooks id (((h.unloadHooks.lookup id).getD []) ++ [hook]) }

/-- Registers the options listener of an entry, dropped again when it is unloaded. -/
def listenToOptions (id : String) : HomeM σ ρ Unit := do
  modify fun h => { h with optionsListeners := h.optionsListeners ++ [id] }
  addUnloadHook id .dropOptionsListener

/-- Runs the unload hooks of an entry, last registered first, and forgets them; `release`
releases the entry's device. -/
def runUnloadHooks (release : String → HomeM σ ρ Unit) (id : String) : HomeM σ ρ Unit := do
  let hooks := ((← get).unloadHooks.lookup id).getD []
  modify fun h => { h with unloadHooks := assocPut h.unloadHooks id [] }
  for hook in hooks.reverse do
    match hook with
    | .dropOptionsListener => modify fun h => { h with optionsListeners := h.optionsListeners.erase id }
    | .releaseDevice => release id

/-- The reason a failed setup leaves on its entry, with whether the unload hooks run. -/
def setupFailure (f : Fault) : EntryState × Value × Bool :=
  let orElse (msg d : String) : Value := .str (if msg.isEmpty then d else msg)
  match f with
  | .hub .entryError msg => (.setupError, orElse msg "Unknown fatal config entry error", true)
  | .hub .authFailed msg => (.setupError, orElse msg "could not authenticate", true)
  | .notReady _ _ => (.setupRetry, if f.message.isEmpty then .null else .str f.message, true)
  | _ => (.setupError, .null, false)

/-- The fault a coordinator's failed first refresh is in the hub's terms: refused credentials
and entries that cannot be set up stay what they are, any other failure means the entry is not
ready yet, with the failure as its cause. -/
def firstRefreshFault (f : Fault) : Fault :=
  match f with
  | .hub .authFailed _ | .hub .entryError _ => f
  | _ => .notReady "" (some f)

/-- Sets entry `id` up with the integration's `setup`; see the module notes.  A failed setup
is also the step's fault. -/
def setupEntry (release : String → HomeM σ ρ Unit) (setup : ConfigEntry → HomeM σ ρ Bool)
    (id : String) : HomeM σ ρ Bool := do
  let e ← knownEntry id
  setEntryState id .setupInProgress .null
  match ← Exec.attempt (setup { e with state := .setupInProgress }) with
  | .ok ok =>
    setEntryState id (if ok then .loaded else .setupError) .null
    return ok
  | .error f =>
    let (state, reason, hooks) := setupFailure f
    if hooks then runUnloadHooks release id
    setEntryState id state reason
    throw f

/-- Unloads entry `id` with the integration's `unload`; see the module notes. -/
def unloadEntry (release : String → HomeM σ ρ Unit) (unload : ConfigEntry → HomeM σ ρ Bool)
    (id : String) : HomeM σ ρ Bool := do
  let e ← knownEntry id
  let ok ← unload e
  if ok then
    runUnloadHooks release id
    setEntryState id .notLoaded .null
  return ok

/-- Calls the options listener of entry `id` once per registration. -/
def notifyOptionsListeners (listener : String → HomeM σ ρ Unit) (id : String) : HomeM σ ρ Unit := do
  let n := ((← get).optionsListeners.filter (· == id)).length
  for _ in List.range n do
    listener id

/-- Replaces the options of entry `id`; whether they changed.  A change is told to the entry's
options listener. -/
def updateOptions (listener : String → HomeM σ ρ Unit) (id : String) (options : Value) :
    HomeM σ ρ Bool := do
  discard (knownEntry id)
  let (r, changed) := (← get).registry.update id none (some options)
  modifyRegistry fun _ => r
  if changed then notifyOptionsListeners listener id
  return changed

theorem setupFailure_notReady (msg : String) (cause : Option Fault) :
    (setupFailure (.notReady msg cause)).1 = .setupRetry := rfl

end ConnectedHome.Hub
