import ConnectedHome.Hub.ConfigEntry
import ConnectedHome.Document.Equality
/-!
# The registry of configuration entries

The hub keeps its entries in a list, in the order they were added (`Registry`); entries created
while the hub runs are appended and numbered per domain and run, `<domain>_<n>`.

An entry is found by its id, and an id the registry does not know is a fault of its own
(`Registry.known`).  An integration's entries are those of its domain; two of them never share a
unique id, which is why a flow stops when the unique id it chose is taken already
(`Registry.hasUniqueId`, an exact comparison).

Updating an entry's data or options reports whether anything changed (`Registry.update`): a
document is replaced only by one that is not equal to it.
-/
namespace ConnectedHome.Hub

/-- The entries of the hub and how many it created. -/
structure Registry where
  entries : List ConfigEntry
  /-- How many entries were created so far. -/
  created : Nat := 0
deriving Inhabited

namespace Registry

/-- The entry with id `id`. -/
def find? (r : Registry) (id : String) : Option ConfigEntry := r.entries.find? (·.entryId == id)

/-- The entry with id `id`, which must exist. -/
def known (r : Registry) (id : String) : Except Fault ConfigEntry :=
  match r.find? id with
  | some e => .ok e
  | none => .error (.unknownEntry id)

/-- The registry with the entry of the same id replaced by `e`. -/
def put (r : Registry) (e : ConfigEntry) : Registry :=
  { r with entries := r.entries.map fun x => if x.entryId == e.entryId then e else x }

/-- The registry with the entry `id` changed by `f`. -/
def modify (r : Registry) (id : String) (f : ConfigEntry → ConfigEntry) : Registry :=
  { r with entries := r.entries.map fun x => if x.entryId == id then f x else x }

/-- The entries of a domain, in order. -/
def ofDomain (r : Registry) (domain : String) : List ConfigEntry :=
  r.entries.filter (·.domain == domain)

/-- Whether an entry of `domain` has the unique id `uid`. -/
def hasUniqueId (r : Registry) (domain : String) (uid : Value) : Bool :=
  (r.ofDomain domain).any fun e => e.uniqueId.same uid

/-- Adds a new entry of `domain`; its id is the domain numbered by the entries created so far. -/
def create (r : Registry) (domain : String) (title data uniqueId : Value) (source : String) :
    Registry × String :=
  let n := r.created + 1
  let id := s!"{domain}_{n}"
  ({ entries := r.entries ++ [{ entryId := id, domain, title, data, uniqueId, source }], created := n },
   id)

/-- Replaces the data or the options of entry `id` when the new ones differ; whether anything
changed. -/
def update (r : Registry) (id : String) (data options : Option Value) : Registry × Bool :=
  match r.find? id with
  | none => (r, false)
  | some e =>
    let newData := data.filter fun d => !d.same e.data
    let newOptions := options.filter fun o => !o.same e.options
    let e' := { e with data := newData.getD e.data, options := newOptions.getD e.options }
    (r.put e', newData.isSome || newOptions.isSome)

/-- The registry with the data of entry `id` replaced. -/
def setData (r : Registry) (id : String) (data : Value) : Registry :=
  r.modify id fun e => { e with data }

end Registry

end ConnectedHome.Hub
