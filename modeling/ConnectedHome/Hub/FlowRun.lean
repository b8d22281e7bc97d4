import ConnectedHome.Hub.Home
/-!
# Running flows

A flow runs against the hub (`FlowWorld`): its steps read and add entries and reach the outside
world through it.

A step (`runFlowStep`) first checks input that follows a form against that form's fields, so a
rejected input is the step's fault and the form stays the one to fill in.  The result then
finishes the step:

* a configuration flow that creates an entry adds it to the registry with the flow's source and
  unique id, and shows the new entry's id and its empty options (`finishConfigStep`);
* an options flow that creates an entry replaces the options of its entry, which tells the
  entry's options listener when they changed (`finishOptionsStep`).

A configuration flow chooses a unique id for its entry and ends with `already_configured` when
an entry of its domain has that id already (`uniqueIdTaken`).  Reauthenticating replaces an
entry's data, asks for a reload when that changed anything and ends with `reauth_successful`
(`updateReloadAndAbort`).
-/
namespace ConnectedHome.Hub

/-- A flow and the hub it runs against. -/
structure FlowWorld (σ ρ : Type) where
  home : Home σ ρ
  flow : Flow

/-- Computations of a flow. -/
abbrev FlowM (σ ρ : Type) := Exec (FlowWorld σ ρ)

variable {σ ρ : Type}

/-- Runs a computation of the hub. -/
def viaHub {α : Type} (x : HomeM σ ρ α) : FlowM σ ρ α :=
  Exec.focus (·.home) (fun w h => { w with home := h }) x

/-- Runs a computation on the outside world. -/
def flowOutside {α : Type} (x : Exec Outside α) : FlowM σ ρ α := viaHub (onOutside x)

/-- The flow. -/
def currentFlow : FlowM σ ρ Flow := do return (← get).flow

/-- Chooses the unique id of the flow's entry. -/
def chooseUniqueId (uid : Value) : FlowM σ ρ Unit :=
  modify fun w => { w with flow := w.flow.withUniqueId uid }

/-- Whether an entry of the flow's domain has the unique id the flow chose; never before it
chose one. -/
def uniqueIdTaken : FlowM σ ρ Bool := do
  let w ← get
  let uid := w.flow.uniqueId
  return !uid.isNull && w.home.registry.hasUniqueId w.flow.handler uid

/-- Replaces the data of entry `id`, asks for its reload when the data `changed`, and ends the
flow. -/
def updateReloadAndAbort (listener : String → HomeM σ ρ Unit) (id : String) (data : Value)
    (changed : Bool) : FlowM σ ρ FlowResult := do
  if changed then
    viaHub do
      modifyRegistry (·.setData id data)
      notifyOptionsListeners listener id
      recordReload id
  return .abort "reauth_successful"

/-- Runs one step of the flow on `input`; see the module notes. -/
def runFlowStep (step : Value → FlowM σ ρ FlowResult) (input : Value) : FlowM σ ρ FlowResult := do
  let input ← match (← currentFlow).form, input with
    | some _, .null => pure Value.null
    | some fields, v => Exec.lift ((formValidator fields).validate v)
    | none, v => pure v
  let r ← step input
  modify fun w => { w with flow := w.flow.after r }
  return r

/-- Finishes a step of a configuration flow and shows its result. -/
def finishConfigStep (r : FlowResult) : FlowM σ ρ Value := do
  let w ← get
  match r with
  | .createEntry title data =>
    let (reg, id) := w.home.registry.create w.flow.handler title data w.flow.uniqueId w.flow.source
    set { w with home := { w.home with registry := reg } }
    return r.toValue w.flow.handler [("options", .obj []), ("entry_id", .str id)]
  | _ => return r.toValue w.flow.handler []

/-- Finishes a step of an options flow and shows its result. -/
def finishOptionsStep (listener : String → HomeM σ ρ Unit) (r : FlowResult) : FlowM σ ρ Value := do
  let handler := (← currentFlow).handler
  match r with
  | .createEntry _ data => discard (viaHub (updateOptions listener handler data))
  | _ => pure ()
  return r.toValue handler []

/-- Runs a configuration flow started by the hub to its first result, on the hub; the result is
recorded in the journal. -/
def startConfigFlow (domain : String) (context input : Value)
    (step : Value → FlowM σ ρ FlowResult) : HomeM σ ρ Unit := do
  let h ← get
  let (r, w) := (do finishConfigStep (← runFlowStep step input)).run' ⟨h, { handler := domain, context }⟩
  set w.home
  match r with
  | .ok v => recordFlow v
  | .error f => recordFlow f.toValue

theorem uniqueIdTaken_unchosen (w : FlowWorld σ ρ) (h : w.flow.uniqueId = .null) :
    (uniqueIdTaken.run' w).1 = .ok false := by
  have run : (uniqueIdTaken.run' w).1 =
      .ok (!w.flow.uniqueId.isNull && w.home.registry.hasUniqueId w.flow.handler w.flow.uniqueId) := rfl
  rw [run, h]
  rfl

end ConnectedHome.Hub
