import ConnectedHome.Vehicle.Reports
import ConnectedHome.Document.Reader
import ConnectedHome.Document.Writer
/-!
# Answers of the console

The console drives the library with requests written as documents and answers with documents.
A request that fails answers with its fault: `{"error": class, "message": text}`, plus the
exchange's status and error report for failures of the vehicle service and the response code
for refusals of a speaker (`Fault.toValue`).

Requests are read leniently: a missing member takes the default the request format gives it
(`Value.memberOr`).
-/
namespace ConnectedHome

open Vehicle

/-- Member `k` of a request, `d` when it is missing. -/
def Value.memberOr (v : Value) (k : String) (d : Value) : Value :=
  (v.field? k).getD d

/-- Member `k` of a request as text, `d` when it is missing or no text. -/
def Value.textOr (v : Value) (k : String) (d : String) : String :=
  match v.field? k with
  | some (.str s) => s
  | _ => d

/-- Member `k` of a request as a truth value, `d` when missing or null. -/
def Value.flagOr (v : Value) (k : String) (d : Bool) : Bool :=
  match v.field? k with
  | some .null => d
  | some w => w.truthy
  | none => d

namespace Console

/-- The answer of a computation: its value under `key`, or its fault. -/
def answerWith (key : String) (r : Except Fault Value) : Value :=
  match r with
  | .ok v => .obj [(key, v)]
  | .error f => f.toValue

/-- An optional float as a value. -/
def floatOption : Option Float → Value
  | some x => .float x
  | none => .null

/-- A value or its fault, standing in a member. -/
def valueOrFault (r : Except Fault Value) : Value :=
  match r with
  | .ok v => v
  | .error f => f.toValue

end Console

end ConnectedHome
