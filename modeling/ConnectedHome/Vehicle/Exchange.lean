import ConnectedHome.Document.Value
/-!
# Exchanges with the vehicle service

Every failure of the vehicle service client carries the exchange it happened in: the method
and address of the request, the status the server answered with (0 when no answer came), the
cleaned response text and the error report the server sent, if any.

An error report is the server's own description of a refusal.  It has four texts, all empty
when the server sent none; it describes an error when it names an error or a code
(`ErrorReport.isError`).
-/
namespace ConnectedHome.Vehicle

/-- The server's description of a refusal. -/
structure ErrorReport where
  error : String := ""
  code : String := ""
  description : String := ""
  reason : String := ""
deriving Inhabited, BEq

/-- Whether the report describes an error: it names an error or a code. -/
def ErrorReport.isError (r : ErrorReport) : Bool := !r.error.isEmpty || !r.code.isEmpty

/-- The one-line text of a report: `error (code): description`. -/
def ErrorReport.text (r : ErrorReport) : String := s!"{r.error} ({r.code}): {r.description}"

/-- The report as a document. -/
def ErrorReport.toValue (r : ErrorReport) : Value :=
  .obj [("error", .str r.error), ("code", .str r.code), ("description", .str r.description),
    ("reason", .str r.reason)]

/-- One request and what came back. -/
structure Exchange where
  method : String := ""
  url : String := ""
  status : Int := 0
  response : String := ""
  report : ErrorReport := {}
deriving Inhabited

/-- Whether the status is one of the success statuses 200, 201 and 202. -/
def Exchange.statusOk (x : Exchange) : Bool := x.status == 200 || x.status == 201 || x.status == 202

end ConnectedHome.Vehicle
