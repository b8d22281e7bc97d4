import ConnectedHome.Console.Steps
import ConnectedHome.Hub.Integration
/-!
# Console: sessions with the hub

A request of the console describes a hub that runs one integration (`hubOfRequest`): its
entries, in order, the scripted network and the clock.  Two kinds of session run against it:

* a flow session (`flowSessionAnswer`) runs one configuration or options flow through its steps;
  one flow serves every step, so what a step chose carries over;
* an integration session (`integrationSessionAnswer`) runs calls of the hub: setting the
  integration up from the configuration file, setting entries up and unloading them, changing
  options, calling services, receiving packets and releasing devices (`hubCall`).

Either way, a step may first replace the routes and move the clock.  Its answer is its result
or its fault, with what the hub did during the step beside it (`hubMembers`): the entries, the
runtime data by entry, the platforms set up and torn down, the reloads, the results of the flows
the hub started, the refreshes asked for, the registered services, the shared data and the
requests sent.  A failed setup that asks for new credentials says so; one that is not ready yet
shows its cause (`setupFaultMembers`).
-/
namespace ConnectedHome.Console

open Hub

variable {σ ρ : Type}

/-- The hub a request describes; `domain` is the domain of entries that name none. -/
def hubOfRequest (domain : String) (shared : σ) (req : Value) : Home σ ρ :=
  let entries := match req.field? "entries" with
    | some (.list es) => es.map (ConfigEntry.ofValue domain)
    | _ => []
  { registry := { entries }, shared,
    outside := { network := { routes := routesOf req }, clock := req.memberOr "clock" (.float 1000.0) } }

/-- What the hub did during a step, and its state after it, as shown; `sent` are the requests
of the step. -/
def hubMembers (i : Integration σ ρ) (requestValue : Http.HttpRequest → Value) (h : Home σ ρ)
    (sent : List Http.HttpRequest) : List (String × Value) :=
  [("entries", .list (h.registry.entries.map ConfigEntry.toValue)),
   ("runtime", .obj (h.runtime.map fun (id, r) => (id, i.runtimeValue r))),
   ("forwarded", .list h.journal.forwarded),
   ("unloaded_platforms", .list h.journal.unloadedPlatforms),
   ("reloads", Value.ofStrings h.journal.reloads),
   ("flows", .list h.journal.flows),
   ("refresh_requested", .int h.journal.refreshRequested),
   ("services", Value.ofStrings (h.services.mergeSort (fun a b => decide (a ≤ b))))] ++
  i.sharedMembers h.shared ++
  [("requests", .list (sent.map requestValue))]

/-- The members a fault of a setup adds to its answer: whether new credentials were asked for,
and the cause of an entry that is not ready yet. -/
def setupFaultMembers (f : Fault) : List (String × Value) :=
  match f with
  | .hub .authFailed _ => [("reauth_requested", .bool true)]
  | .notReady _ cause => [("cause", (cause.map Fault.toValue).getD .null)]
  | _ => []

/-- The members of a step's outcome: its result, or its fault with what the fault adds. -/
def hubOutcomeMembers (r : Except Fault Value) : List (String × Value) :=
  match r with
  | .ok v => [("result", v)]
  | .error f => outcomeMembers (.error f) ++ setupFaultMembers f

/-- The hub before a step: the routes the step gives, the clock moved and the journal empty. -/
def hubBeforeStep (h : Home σ ρ) (step : Value) : Except Fault (Home σ ρ) := do
  let outside := match step.field? "routes" with
    | some _ => h.outside.withRoutes (routesOf step)
    | none => h.outside
  return { h with outside := ← advanceClock step outside, journal := {} }

/-- The answer to a step that ran on the hub, and the hub after it. -/
def hubAnswer (i : Integration σ ρ) (requestValue : Http.HttpRequest → Value)
    (r : Except Fault Value) (h : Home σ ρ) : Value × Home σ ρ :=
  let (sent, outside) := h.outside.takeSent
  (.obj (hubOutcomeMembers r ++ hubMembers i requestValue h sent), { h with outside })

/-- The entry a step names. -/
def stepEntry (step : Value) : Except Fault String := do
  return (← step.item "entry_id").display

/-- The call of an integration session named `call`, with the configuration file `config`;
none for an unknown call. -/
def hubCall (i : Integration σ ρ) (config : Value) (call : String) (step : Value) :
    Option (HomeM σ ρ Value) :=
  let unit (x : HomeM σ ρ Unit) : HomeM σ ρ Value := do x; return .null
  let bool (x : HomeM σ ρ Bool) : HomeM σ ρ Value := do return .bool (← x)
  match call with
  | "setup" => some (bool (i.setup config))
  | "setup_entry" => some (bool do i.setUp (← Exec.lift (stepEntry step)))
  | "unload_entry" => some (bool do i.unload (← Exec.lift (stepEntry step)))
  | "update_options" => some (bool do
      i.changeOptions (← Exec.lift (stepEntry step)) (step.memberOr "options" (.obj [])))
  | "service" => some (unit do
      i.callService "yamaha_musiccast" (step.textOr "service" "recall_scene")
        (step.memberOr "data" (.obj [])))
  | "packet" => some (unit (i.packet (Text.utf8Bytes (step.memberOr "json" .null).toRequestText)))
  | "release" => some (unit do
      let id ← Exec.lift (stepEntry step)
      discard (knownEntry id)
      i.release id)
  | _ => none

/-- Runs one step of an integration session. -/
def integrationStep (i : Integration σ ρ) (requestValue : Http.HttpRequest → Value)
    (config : Value) (h : Home σ ρ) (step : Value) : Value × Home σ ρ :=
  let call := step.textOr "call" ""
  match hubBeforeStep h step with
  | .error f => (f.toValue, h)
  | .ok h =>
    match hubCall i config call step with
    | none => (unknownCall call, h)
    | some act =>
      let (r, h') := act.run' h
      hubAnswer i requestValue r h'

/-- Runs an integration session; `shared` is the integration's shared data to begin with. -/
def integrationSessionAnswer (i : Integration σ ρ) (requestValue : Http.HttpRequest → Value)
    (shared : σ) (req : Value) : Value :=
  .obj [("steps", .list (runSteps (integrationStep i requestValue (req.memberOr "config" (.obj [])))
    (hubOfRequest i.domain shared req) (stepsOf req)))]

/-- The flow a request describes: a configuration flow of the integration with the request's
context, or an options flow of the entry it names. -/
def flowOfRequest (i : Integration σ ρ) (kind : FlowKind) (req : Value) : Flow :=
  match kind with
  | .config => { handler := i.domain, context := req.memberOr "context" (.obj [("source", .str "user")]) }
  | .options => { handler := req.textOr "entry_id" "", context := .obj [("source", .str "init")] }

/-- Runs one step of a flow session. -/
def flowSessionStep (i : Integration σ ρ) (requestValue : Http.HttpRequest → Value) (kind : FlowKind)
    (w : FlowWorld σ ρ) (step : Value) : Value × FlowWorld σ ρ :=
  match hubBeforeStep w.home step with
  | .error f => (f.toValue, w)
  | .ok h =>
    let (r, w') := (i.flowStep kind (step.textOr "step" "") (step.memberOr "input" .null)).run' { w with home := h }
    let (answer, h') := hubAnswer i requestValue r w'.home
    (answer, { w' with home := h' })

/-- Runs a flow session; `shared` is the integration's shared data to begin with. -/
def flowSessionAnswer (i : Integration σ ρ) (requestValue : Http.HttpRequest → Value)
    (shared : σ) (req : Value) : Value :=
  let kind : FlowKind := if req.textOr "kind" "config" == "options" then .options else .config
  let w : FlowWorld σ ρ := ⟨hubOfRequest i.domain shared req, flowOfRequest i kind req⟩
  .obj [("steps", .list (runSteps (flowSessionStep i requestValue kind) w (stepsOf req)))]

end ConnectedHome.Console
