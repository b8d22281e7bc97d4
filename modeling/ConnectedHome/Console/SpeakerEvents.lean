import ConnectedHome.Console.Steps
import ConnectedHome.Speaker.Listener
import ConnectedHome.Text.Base64
import ConnectedHome.Speaker.Client
/-!
# Console: the event listener

`listenerAnswer` runs the event listener through a list of steps: registering and
unregistering device ids under handler names, packets given as text, as base64 or as a document
(a datagram is cut to the packet limit first), starting and stopping it, and reports of its
socket, which change nothing.  Each step is answered with the events it dispatched, the
registered ids and whether the listener runs; a packet whose event cannot be read is answered
with the fault as well.
-/
namespace ConnectedHome.Console

open Speaker

/-- The bytes of the packet a step describes, if it describes one. -/
def packetOf (step : Value) : Except Fault (Option (List UInt8)) := do
  let bytes ← match step.field? "text", step.field? "b64", step.field? "json" with
    | some t, _, _ => pure (some (Text.utf8Bytes (argText t)))
    | none, some b, _ => some <$> Text.readBase64 (argText b)
    | none, none, some v => pure (some (Text.utf8Bytes v.toRequestText))
    | none, none, none => pure none
  return bytes.map fun bs => if step.flagOr "datagram" false then bs.take packetLimit else bs

/-- A dispatched event as shown. -/
def dispatchedValue (handler : String) (e : SpeakerEvent) : Value :=
  .obj [("handler", .str handler), ("message", e.toValue), ("track_ok", .bool true)]

/-- Runs a step on the listener: the events it dispatched, or its fault, and the listener
after it. -/
def listenerEffect (l : Listener String) (step : Value) : Except Fault (List Value) × Listener String :=
  match step.field? "register", step.field? "unregister" with
  | some id, _ =>
    let name := argText (step.memberOr "handler" id)
    (.ok [], l.register (argText id) name)
  | none, some id => (.ok [], l.unregister (argText id))
  | none, none =>
    match packetOf step with
    | .error f => (.error f, l)
    | .ok (some bytes) =>
      match l.route bytes with
      | .ok none => (.ok [], l)
      | .ok (some (h, e)) => (.ok [dispatchedValue h e], l)
      | .error f => (.error f, l)
    | .ok none =>
      if (step.field? "start").isSome then (.ok [], { l with running := true })
      else if (step.field? "stop").isSome then (.ok [], { l with running := false })
      else (.ok [], l)

/-- Runs one step of the listener: its answer and the listener after it. -/
def listenerStep (l : Listener String) (step : Value) : Value × Listener String :=
  let (r, l') := listenerEffect l step
  let (fault, dispatched) := match r with
    | .ok ds => ([], ds)
    | .error f => ((match f.toValue with
        | .obj ms => ms
        | _ => []), [])
  (.obj (fault ++ [("dispatched", .list dispatched), ("device_ids", Value.ofStrings l'.deviceIds),
      ("running", .bool l'.running)]), l')

/-- Runs the event listener through the steps of a request. -/
def listenerAnswer (req : Value) : Value :=
  .obj [("port", req.memberOr "port" (.int eventPort)),
    ("steps", .list (runSteps listenerStep {} (stepsOf req)))]

end ConnectedHome.Console
