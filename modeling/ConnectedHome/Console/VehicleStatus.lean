import ConnectedHome.Console.Answer
import ConnectedHome.Vehicle.Status
import ConnectedHome.Vehicle.ServiceErrors
/-!
# Console: channels and the state of the vehicle

Requests about the channel table, the values of status fields and the aggregated state.

A channel definition in a request is either the id of a built-in definition or an object with
the members of a definition; a member that is missing takes its default (`channelOfValue`).
A request that names no definition, or an id the table does not know, leaves the definition
absent, and the answer is then what using an absent definition gives: no value where the
computation stops before it needs the definition, the fault of the missing member where it
needs it.
-/
namespace ConnectedHome.Console

open Vehicle Number

/-- A definition from the members of an object, each missing member at its default. -/
def channelOfMembers (v : Value) : Channel :=
  { id := v.textOr "id" "", symbolicName := v.textOr "symbolic_name" "",
    channel := v.textOr "channel" "", group := v.textOr "group" "",
    itemKind := ItemKind.ofName (v.textOr "item_type" "Number"),
    unit := (v.field? "unit").bind Value.str?,
    scale := match v.field? "scale" with
      | some (.float x) => x
      | some (.int i) => intToFloat i |>.toOption |>.getD 1.0
      | _ => 1.0 }

/-- The definition a request names: a built-in id or the members of a definition. -/
def channelOfValue : Value → Option Channel
  | .str fieldId => ChannelTable.builtIn.find fieldId
  | v@(.obj _) => some (channelOfMembers v)
  | _ => none

/-- The fault of reading member `member` of an absent definition. -/
def absentDefinition (member : String) : Fault :=
  .noAttribute s!"'NoneType' object has no attribute '{member}'"

/-- The definition of an id: `{value, count}` with the size of the table. -/
def findAnswer (req : Value) : Value :=
  let found := ChannelTable.builtIn.find (req.textOr "id" "")
  .obj [("value", (found.map Channel.toValue).getD .null),
    ("count", .int ChannelTable.builtIn.size)]

/-- The definition describing the value a field reports.  An absent definition stays absent
unless the field reports a known unit, which cannot be put into an absent definition. -/
def updateDefinitionAnswer (req : Value) : Value :=
  answerWith "value" do
    let f ← StatusField.read (req.memberOr "field" .null)
    match channelOfValue (req.memberOr "definition" .null) with
    | some c => return (c.withReportedUnit f.unit?).toValue
    | none =>
      match f.unit? with
      | some u =>
        if (reportedUnit? u).isSome then
          throw (.badType "replace() should be called on dataclass instances")
        else return .null
      | none => return .null

/-- The on/off state of a raw switch value. -/
def switchStateAnswer (req : Value) : Value :=
  let value := req.memberOr "value" .null
  answerWith "value" do
    match channelOfValue (req.memberOr "definition" .null) with
    | some c => return Value.ofBoolOption (← switchState c value)
    | none =>
      match ← switchState default value with
      | some _ => throw (absentDefinition "symbolic_name")
      | none => return .null

/-- The channel value of a raw number under a definition and the description of the source. -/
def numberStateAnswer (req : Value) : Value :=
  let value := req.memberOr "value" .null
  let definition := channelOfValue (req.memberOr "definition" .null)
  let source := match req.field? "source" with
    | some s => channelOfValue s
    | none => definition
  answerWith "value" do
    match definition, source with
    | some d, some s => return floatOption (← numberState d s value)
    | some d, none =>
      match ← numberState { d with unit := none } d value with
      | some x => if d.unit.isSome then throw (absentDefinition "unit") else return .float x
      | none => return .null
    | none, _ =>
      match ← numberState { (default : Channel) with unit := none } default value with
      | some _ => throw (absentDefinition "unit")
      | none => return .null

/-- Rounds a number to `digits` places, two by default, a half going away from zero. -/
def roundAnswer (req : Value) : Value :=
  answerWith "value" do
    let places ← roundingPlaces (req.memberOr "digits" (.int 2))
    return .float (← roundHalfUp (req.memberOr "value" .null) places)

/-- The channel value of a field, under the definition named or the built-in one of its id. -/
def channelValueAnswer (req : Value) : Value :=
  answerWith "value" do
    let f ← StatusField.read (req.memberOr "field" .null)
    let named := match req.field? "definition" with
      | some d => channelOfValue d
      | none => ChannelTable.builtIn.find f.id
    match named with
    | some c => channelValue c f
    | none => throw (absentDefinition "item_type")

/-- A list of (key, value) pairs as a list of two-element lists. -/
def pairsValue (ps : List (String × Value)) : Value :=
  .list (ps.map fun (k, v) => .list [.str k, v])

/-- The channels a status report has values for. -/
def discoverAnswer (req : Value) : Value :=
  answerWith "value" do
    let r ← StatusReport.read (req.memberOr "status" .null)
    let found := discoverChannels r ChannelTable.builtIn
    return pairsValue (found.map fun (k, c) => (k, c.toValue))

/-- The channel values and the aggregate of a status report; `channels` is null for all
channels, a list of keys, or `discover` for the channels the report has values for. -/
def processAnswer (req : Value) : Value :=
  match (do
    let r ← StatusReport.read (req.memberOr "status" .null)
    let t := ChannelTable.builtIn
    let channels := match req.memberOr "channels" .null with
      | .null => none
      | .str "discover" => some ((discoverChannels r t).map (·.1))
      | .list ks => some (ks.filterMap Value.str?)
      | _ => some []
    processReport r t channels : Except Fault StatusUpdate) with
  | .ok u => .obj [("values", pairsValue u.values), ("aggregate", u.aggregate.toValue)]
  | .error f => f.toValue

/-- Folds (definition, field) pairs into the aggregate; every step shows the aggregate reached
or the fault of the step, and the fold goes on after a fault with the state the step reached. -/
def aggregateAnswer (req : Value) : Value :=
  let updates := match req.memberOr "updates" .null with
    | .list us => us
    | _ => []
  let step (acc : Aggregate × List Value) (u : Value) : Aggregate × List Value :=
    let (a, shown) := acc
    let (d, fieldDoc) := match u with
      | .list [d, f] => (d, f)
      | _ => (Value.null, Value.null)
    match StatusField.read fieldDoc with
    | .error fault => (a, shown ++ [fault.toValue])
    | .ok f =>
      match a.step ((channelOfValue d).getD default) f with
      | (a, none) => (a, shown ++ [a.toValue])
      | (a, some fault) => (a, shown ++ [fault.toValue])
  .obj [("steps", .list (updates.foldl step ({}, [])).2)]

/-- The message of the status code in a description. -/
def apiStatusAnswer (req : Value) : Value :=
  .obj [("value", .str (statusMessage (req.textOr "description" "")
    (req.textOr "error_class" securityClass)))]

/-- The readable message of an error report, given by its four texts (`fields`) or as a
service document (`document`), and whether it means a disabled service. -/
def errorMessageAnswer (req : Value) : Value :=
  let report : Except Fault ErrorReport := match req.field? "fields" with
    | some fs => .ok ⟨fs.textOr "error" "", fs.textOr "code" "", fs.textOr "description" "",
        fs.textOr "reason" ""⟩
    | none => ErrorReport.read (req.memberOr "document" .null)
  match report with
  | .ok r => .obj [("message", .str r.readableMessage), ("pending", .bool r.configurationPending)]
  | .error f => f.toValue

end ConnectedHome.Console
