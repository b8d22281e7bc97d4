import ConnectedHome.Speaker.Reports
import ConnectedHome.Text.Case
import ConnectedHome.Text.Utf8
import ConnectedHome.Document.Reader
/-!
# Routing pushed events

Speakers push their events to one port of the hub, in packets of at most `packetLimit` bytes.
The listener routes each event to the handler registered for the speaker that sent it
(`Listener`, `Listener.route`).  Device ids are compared upper-cased; registering an id again
replaces its handler where it stands, so the registered ids keep the order of their first
registration.

A packet that is not UTF-8, is no document or is not an object is dropped (`readPacket`); an
event whose members cannot be read is a fault; an event of a speaker that nobody registered is
dropped.
-/
namespace ConnectedHome.Speaker

/-- The most bytes of a packet that are read. -/
def packetLimit : Nat := 5120

/-- The handlers of the speakers' events by upper-cased device id, and whether the listener
receives packets. -/
structure Listener (α : Type) where
  handlers : List (String × α) := []
  running : Bool := false

namespace Listener

variable {α : Type}

/-- Sets the value of a key where it stands, or adds it at the end. -/
def putHandler (hs : List (String × α)) (k : String) (h : α) : List (String × α) :=
  if hs.any (·.1 == k) then hs.map fun (k', h') => if k' == k then (k', h) else (k', h')
  else hs ++ [(k, h)]

/-- Routes the events of device `id` to `h`. -/
def register (l : Listener α) (id : String) (h : α) : Listener α :=
  { l with handlers := putHandler l.handlers (Text.upper id) h }

/-- Stops routing the events of device `id`. -/
def unregister (l : Listener α) (id : String) : Listener α :=
  { l with handlers := l.handlers.filter (·.1 != Text.upper id) }

/-- The registered device ids, upper-cased, in the order of their first registration. -/
def deviceIds (l : Listener α) : List String := l.handlers.map (·.1)

/-- The handler of a device id. -/
def handlerOf (l : Listener α) (id : String) : Option α :=
  (l.handlers.find? (·.1 == Text.upper id)).map (·.2)

end Listener

/-- The document a packet holds, when it is an object; a packet nested too deep to read is a
fault, any other unreadable packet holds none. -/
def readPacket (bytes : List UInt8) : Except Fault (Option Value) :=
  match Text.decodeUtf8? bytes with
  | none => .ok none
  | some text =>
    match readDocument text with
    | .ok v => .ok (if v.isObj then some v else none)
    | .error (.tooDeep inObject) => .error (ReadError.tooDeep inObject).toFault
    | .error _ => .ok none

/-- The handler a packet goes to with the event it holds; none when the packet is dropped. -/
def Listener.route {α : Type} (l : Listener α) (bytes : List UInt8) :
    Except Fault (Option (α × SpeakerEvent)) := do
  match ← readPacket bytes with
  | none => .ok none
  | some doc => do
    let event ← SpeakerEvent.read doc
    return (l.handlerOf event.deviceId).map fun h => (h, event)

theorem Listener.putHandler_keys {α : Type} (hs : List (String × α)) (k : String) (h : α) :
    (putHandler hs k h).map (·.1) =
      if (hs.map (·.1)).contains k then hs.map (·.1) else hs.map (·.1) ++ [k] := by
  have hany : hs.any (·.1 == k) = (hs.map (·.1)).contains k := by
    rw [Bool.eq_iff_iff]
    simp [List.any_eq_true, List.mem_map]
  unfold putHandler
  rw [hany]
  split
  · simp only [List.map_map]
    congr 1
    funext x
    simp only [Function.comp]
    split <;> rfl
  · simp

/-- Registering keeps the ids in the order of their first registration. -/
theorem Listener.deviceIds_register {α : Type} (l : Listener α) (id : String) (h : α) :
    (l.register id h).deviceIds =
      if l.deviceIds.contains (Text.upper id) then l.deviceIds else l.deviceIds ++ [Text.upper id] :=
  Listener.putHandler_keys l.handlers (Text.upper id) h

end ConnectedHome.Speaker
