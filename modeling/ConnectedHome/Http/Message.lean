import ConnectedHome.Document.Value
/-!
# Requests and what comes back

A request names its method, its address (already encoded), the total time it may take, and
optionally its headers, a text body and a document body.  What comes back is one of four
things (`HttpOutcome`): an answer with a status, a body and a reason phrase; a timeout; a
refused connection; or a failure of the transport that no client expects.
-/
namespace ConnectedHome.Http

/-- A request as the client sends it. -/
structure HttpRequest where
  method : String
  url : String
  /-- Seconds the whole exchange may take. -/
  timeout : Nat
  headers : Option (List (String × String)) := none
  /-- A text body. -/
  body : Option String := none
  /-- A document body, sent as its text. -/
  document : Option Value := none
deriving Inhabited

/-- What comes back for a request. -/
inductive HttpOutcome where
  /-- The server answered. -/
  | answered (status : Int) (body : String) (reason : String)
  /-- The exchange took too long; the message may be empty. -/
  | timedOut (message : String)
  /-- The connection failed. -/
  | refused (message : String)
  /-- The transport broke in a way no client handles. -/
  | crashed (message : String)
deriving Inhabited

/-- Whether a status is an error status: 400 or above. -/
def isErrorStatus (status : Int) : Bool := decide (400 ≤ status)

end ConnectedHome.Http
