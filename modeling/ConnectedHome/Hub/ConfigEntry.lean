import ConnectedHome.Fault
/-!
# Configuration entries

A configuration entry is one configured device or account of an integration: its id, its
domain, a title, the data the user gave, the options set later, an optional unique id, the
source that created it and a version (`ConfigEntry`).  The hub tracks the state of each entry's
setup (`EntryState`) and, after a failed setup, the reason.
-/
namespace ConnectedHome.Hub

/-- The state of an entry's setup. -/
inductive EntryState where
  | notLoaded
  | setupInProgress
  | loaded
  | setupError
  | setupRetry
  | failedUnload
deriving BEq, DecidableEq, Inhabited

/-- The name of a state as the hub shows it. -/
def EntryState.name : EntryState → String
  | .notLoaded => "not_loaded"
  | .setupInProgress => "setup_in_progress"
  | .loaded => "loaded"
  | .setupError => "setup_error"
  | .setupRetry => "setup_retry"
  | .failedUnload => "failed_unload"

/-- A configuration entry. -/
structure ConfigEntry where
  entryId : String
  domain : String
  title : Value := .str ""
  data : Value := .obj []
  options : Value := .obj []
  uniqueId : Value := .null
  source : String := "user"
  version : Value := .int 1
  state : EntryState := .notLoaded
  reason : Value := .null
deriving Inhabited

/-- The entry a document describes; `domain` is the domain of entries that name none. -/
def ConfigEntry.ofValue (domain : String) (v : Value) : ConfigEntry :=
  let text (k d : String) : String :=
    match v.field? k with
    | some (.str s) => s
    | _ => d
  { entryId := text "entry_id" "", domain := text "domain" domain,
    title := (v.field? "title").getD (.str ""), data := (v.field? "data").getD (.obj []),
    options := (v.field? "options").getD (.obj []), uniqueId := (v.field? "unique_id").getD .null,
    source := text "source" "user", version := (v.field? "version").getD (.int 1) }

/-- The entry as shown. -/
def ConfigEntry.toValue (e : ConfigEntry) : Value :=
  .obj [("entry_id", .str e.entryId), ("domain", .str e.domain), ("title", e.title),
    ("data", e.data), ("options", e.options), ("unique_id", e.uniqueId), ("source", .str e.source),
    ("state", .str e.state.name), ("reason", e.reason)]

/-- A member of the entry's options, else of its data, else `d`. -/
def ConfigEntry.setting (e : ConfigEntry) (k : String) (d : Value) : Value :=
  match e.options.field? k with
  | some v => v
  | none => (e.data.field? k).getD d

end ConnectedHome.Hub
