import ConnectedHome.Console.Answer
import ConnectedHome.Outside
/-!
# Console: the scripted network

A request of the console describes the network its clients run against as a list of routes
(`routeOf`): a route names the method and a part of the address it accepts, how often it may
be used, and either what it raises (`timeout`, `client_error`, `runtime`, with a message) or
the status, body and reason of its answer.  A body that is not text is sent as its document
text.

The requests a step sent are shown with the fields each service's clients use
(`vehicleRequestValue`, `speakerRequestValue`).  The arguments of a call are read by name
(`argsOf`); a missing one is refused the way a call without it is.
-/
namespace ConnectedHome.Console

open Http

/-- The route a document describes. -/
def routeOf (v : Value) : Route :=
  let message := v.textOr "message" ""
  let body := match v.field? "body" with
    | some (.str s) => s
    | some doc => doc.toRequestText
    | none => ""
  let status := match v.field? "status" with
    | some (.int n) => n
    | _ => 200
  let outcome : HttpOutcome := match v.textOr "raise" "" with
    | "timeout" => .timedOut message
    | "client_error" => .refused message
    | "runtime" => .crashed message
    | _ => .answered status body (v.textOr "reason" "error")
  { method := match v.field? "method" with
      | some (.str m) => some m
      | _ => none,
    pattern := v.textOr "match" "",
    uses := match v.field? "times" with
      | some (.int n) => some n
      | _ => none,
    outcome }

/-- The routes a request describes under `key`. -/
def routesOf (req : Value) (key : String := "routes") : List Route :=
  match req.field? key with
  | some (.list rs) => rs.map routeOf
  | _ => []

/-- Headers as a document. -/
def headersValue (hs : List (String × String)) : Value := .obj (hs.map fun (k, v) => (k, .str v))

/-- A request of the vehicle client as shown. -/
def vehicleRequestValue (r : HttpRequest) : Value :=
  .obj [("method", .str r.method), ("url", .str r.url), ("timeout", .int r.timeout),
    ("headers", headersValue (r.headers.getD [])), ("data", Value.ofOption r.body)]

/-- A request of a speaker client as shown. -/
def speakerRequestValue (r : HttpRequest) : Value :=
  .obj [("method", .str r.method), ("url", .str r.url), ("timeout", .int r.timeout),
    ("headers", (r.headers.map headersValue).getD .null), ("json", r.document.getD .null)]

/-- The names of missing arguments as a call lists them: `'a'`, `'a' and 'b'`,
`'a', 'b', and 'c'`. -/
def listNames : List String → String
  | [] => ""
  | [a] => s!"'{a}'"
  | [a, b] => s!"'{a}' and '{b}'"
  | names =>
    let quoted := names.map fun n => s!"'{n}'"
    ", ".intercalate quoted.dropLast ++ ", and " ++ quoted.getLastD ""

/-- The arguments `names` of a call of `owner`, in order; a call without some of them is
refused. -/
def argsOf (owner : String) (names : List String) (args : Value) : Except Fault (List Value) :=
  let missing := names.filter fun n => (args.field? n).isNone
  match missing with
  | [] => .ok (names.map fun n => args.fieldD n)
  | [n] => .error (.badType s!"{owner}() missing 1 required positional argument: '{n}'")
  | ms => .error (.badType s!"{owner}() missing {ms.length} required positional arguments: {listNames ms}")

/-- A text argument as the call uses it: text as it is, anything else as its display. -/
def argText (v : Value) : String :=
  match v with
  | .str s => s
  | _ => v.display

end ConnectedHome.Console
