import ConnectedHome.Exec
import ConnectedHome.Http.Network
import ConnectedHome.Net.Url
import ConnectedHome.Number.Mixed
/-!
# What lies outside the hub

The clients of the hub see two things they do not control: the network and a monotonic clock
(`Outside`).  Sending a request encodes its address the way every address is written
(`Net.Url.read`, then `Url.text`), hands it to the network and yields what comes back; the
clock only moves between the hub's steps (`Outside.advance`).
-/
namespace ConnectedHome

open Http

/-- The network and the clock. -/
structure Outside where
  network : Network
  /-- The reading of the monotonic clock, in seconds. -/
  clock : Value := .float 1000.0
deriving Inhabited

/-- The written form of an address. -/
def encodeAddress (url : String) : Except Fault String := do
  return (← Net.Url.read url).text

/-- Sends a request whose address is already written. -/
def Outside.send (req : HttpRequest) : Exec Outside HttpOutcome :=
  Exec.ofRun fun o =>
    let (r, n) := o.network.send req
    (.ok r, { o with network := n })

/-- The clock moved on by `seconds`. -/
def Outside.advance (o : Outside) (seconds : Value) : Except Fault Outside := do
  return { o with clock := ← o.clock.plus seconds }

/-- The requests sent so far, and the outside with that record cleared. -/
def Outside.takeSent (o : Outside) : List HttpRequest × Outside :=
  (o.network.sent, { o with network := o.network.clearSent })

/-- Replaces the routes of the network. -/
def Outside.withRoutes (o : Outside) (routes : List Route) : Outside :=
  { o with network := { o.network with routes } }

theorem Outside.send_sent (req : HttpRequest) (o : Outside) :
    ((Outside.send req).run' o).2.network.sent = o.network.sent ++ [req] := rfl

end ConnectedHome
