import ConnectedHome.Hub.Schema
/-!
# Flows

A flow asks for what an entry needs, step by step (`Flow`): a configuration flow creates an
entry of its handler's domain, an options flow edits the options of the entry it is the handler
of.  Each step answers with a result (`FlowResult`):

* a form to fill in, with the errors of the last attempt and the fields it asks for;
* an entry to create, with its title and data;
* the end of the flow, with a reason.

The flow's context says how it was started (its source), may name the entry it is about, and
carries the unique id the flow chose for its entry.  Input that follows a form is checked
against that form's fields before the step sees it (`Flow.form`).
-/
namespace ConnectedHome.Hub

/-- The fields of a form: keys and their validators. -/
abbrev FormFields := List (SchemaKey × Validator)

/-- What a step of a flow answers. -/
inductive FlowResult where
  /-- A form; `errors` is none for forms that show no errors. -/
  | form (stepId : String) (fields : FormFields) (errors : Option (List (String × String)))
  | createEntry (title data : Value)
  | abort (reason : String)

/-- The result as a document, naming its handler; `extra` adds members to a created entry. -/
def FlowResult.toValue (r : FlowResult) (handler : String) (extra : List (String × Value)) : Value :=
  match r with
  | .form stepId fields errors =>
    let shown := match errors with
      | some es => [("errors", Value.obj (es.map fun (k, e) => (k, .str e)))]
      | none => []
    .obj ([("type", .str "form"), ("handler", .str handler), ("step_id", .str stepId)] ++ shown ++
      [("data_schema", .list (Validator.describeKeys fields))])
  | .createEntry title data =>
    .obj ([("type", .str "create_entry"), ("handler", .str handler), ("title", title), ("data", data)] ++
      extra)
  | .abort reason => .obj [("type", .str "abort"), ("handler", .str handler), ("reason", .str reason)]

/-- A flow under way. -/
structure Flow where
  /-- The domain of a configuration flow, the entry id of an options flow. -/
  handler : String
  /-- How the flow was started and what it chose so far, an object. -/
  context : Value
  /-- The fields of the form the flow showed last, if its last result was a form. -/
  form : Option FormFields := none
deriving Inhabited

namespace Flow

/-- The source of the flow: how it was started. -/
def source (f : Flow) : String :=
  match f.context.field? "source" with
  | some (.str s) => s
  | _ => "user"

/-- The unique id the flow chose, null before it chose one. -/
def uniqueId (f : Flow) : Value := f.context.fieldD "unique_id"

/-- The flow with its unique id chosen. -/
def withUniqueId (f : Flow) (uid : Value) : Flow :=
  match f.context with
  | .obj ms => { f with context := .obj (Members.put ms "unique_id" uid) }
  | _ => { f with context := .obj [("unique_id", uid)] }

/-- The flow after a step answered `r`: a form becomes the one the next input must fit. -/
def after (f : Flow) (r : FlowResult) : Flow :=
  match r with
  | .form _ fields _ => { f with form := some fields }
  | _ => { f with form := none }

end Flow

theorem Flow.uniqueId_withUniqueId (f : Flow) (uid : Value) :
    (f.withUniqueId uid).uniqueId = uid := by
  unfold withUniqueId uniqueId
  split <;> simp [Value.fieldD, Value.field?, ← Members.lookup_eq, Members.lookup_put]

end ConnectedHome.Hub
