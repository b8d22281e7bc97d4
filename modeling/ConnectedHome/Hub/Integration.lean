import ConnectedHome.Hub.FlowRun
/-!
# Integrations

An integration is what the hub knows of a kind of device (`Integration`): its domain, how it is
set up from the configuration file, how its entries are set up, unloaded and told about changed
options, the steps of its configuration and options flows, the services it offers and the
packets it listens to, and how its runtime and shared data are shown.

The hub drives an integration through these entry points:

* setting an entry up, unloading it and changing its options (`Integration.setUp`,
  `Integration.unload`, `Integration.changeOptions`), with the outcome rules of the hub;
* a step of a flow (`Integration.flowStep`): a step the flow does not have is refused the way a
  missing method is, after the input was checked against the form it follows;
* a service call (`Integration.callService`), refused when no integration registered the service.
-/
namespace ConnectedHome.Hub

/-- What an integration with shared data `σ` and runtime data `ρ` offers the hub. -/
structure Integration (σ ρ : Type) where
  domain : String
  /-- The name of the configuration flow, as a refusal of a missing step gives it. -/
  configFlowName : String
  /-- The name of the options flow, as a refusal of a missing step gives it. -/
  optionsFlowName : String
  /-- Sets the integration up from the configuration file. -/
  setup : Value → HomeM σ ρ Bool
  setupEntry : ConfigEntry → HomeM σ ρ Bool
  unloadEntry : ConfigEntry → HomeM σ ρ Bool
  /-- Releases the device of an entry, an unload hook of the entry. -/
  release : String → HomeM σ ρ Unit
  /-- The options listener of an entry. -/
  optionsUpdated : String → HomeM σ ρ Unit
  configStep : String → Option (Value → FlowM σ ρ FlowResult)
  optionsStep : String → Option (Value → FlowM σ ρ FlowResult)
  /-- Handles a call of one of the integration's services. -/
  handleService : String → Value → HomeM σ ρ Unit
  /-- Receives a packet on the integration's listener. -/
  packet : List UInt8 → HomeM σ ρ Unit
  runtimeValue : ρ → Value
  /-- The members that show the shared data, none while there is nothing to show. -/
  sharedMembers : σ → List (String × Value)

/-- The two kinds of flow: one that configures a new entry and one that edits an entry's
options. -/
inductive FlowKind where
  | config
  | options
deriving Inhabited, DecidableEq

namespace Integration

variable {σ ρ : Type} (i : Integration σ ρ)

/-- Sets entry `id` up. -/
def setUp (id : String) : HomeM σ ρ Bool := Hub.setupEntry i.release i.setupEntry id

/-- Unloads entry `id`. -/
def unload (id : String) : HomeM σ ρ Bool := Hub.unloadEntry i.release i.unloadEntry id

/-- Replaces the options of entry `id`; whether they changed. -/
def changeOptions (id : String) (options : Value) : HomeM σ ρ Bool :=
  updateOptions i.optionsUpdated id options

/-- The name of the flow of kind `kind`. -/
def flowName : FlowKind → String
  | .config => i.configFlowName
  | .options => i.optionsFlowName

/-- The step named `step` of the flow of kind `kind`. -/
def stepOf : FlowKind → String → Option (Value → FlowM σ ρ FlowResult)
  | .config => i.configStep
  | .options => i.optionsStep

/-- The refusal of a step the flow does not have. -/
def missingStep (kind : FlowKind) (step : String) : Fault :=
  .noAttribute s!"'{i.flowName kind}' object has no attribute 'async_step_{step}'"

/-- Runs step `step` of the flow of kind `kind` on `input` and finishes it; see the module
notes. -/
def flowStep (kind : FlowKind) (step : String) (input : Value) : FlowM σ ρ Value := do
  let checked : Value → FlowM σ ρ FlowResult := fun v =>
    match i.stepOf kind step with
    | some run => run v
    | none => throw (i.missingStep kind step)
  let r ← runFlowStep checked input
  match kind with
  | .config => finishConfigStep r
  | .options => finishOptionsStep i.optionsUpdated r

/-- Calls service `service` of domain `domain` with `data`: refused when it is not registered,
else handled by the integration. -/
def callService (domain service : String) (data : Value) : HomeM σ ρ Unit := do
  let name := s!"{domain}.{service}"
  if !(← get).services.contains name then
    throw (.hub .serviceNotFound s!"Service {name} not found.")
  i.handleService service data

end Integration

theorem Integration.flowName_config {σ ρ : Type} (i : Integration σ ρ) :
    i.flowName .config = i.configFlowName := rfl

end ConnectedHome.Hub
