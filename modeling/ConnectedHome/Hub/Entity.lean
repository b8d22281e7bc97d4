import ConnectedHome.Document.Value
import ConnectedHome.Fault
/-!
# Entities and diagnostics

An entity is how the hub shows one aspect of a device: it has a class, a unique id, a name, an
icon, the device it belongs to and the properties of its class (`EntityView`).  A property
whose value cannot be computed is shown as its fault.

A device is identified by pairs of a domain and an id, shown sorted (`identifiersValue`).

Diagnostics hide the values of sensitive members (`redact`): in objects at any depth, a member
whose name is to be hidden shows `**REDACTED**` instead of its value, unless the value is null
or empty text.
-/
namespace ConnectedHome.Hub

/-- An entity as the hub shows it. -/
structure EntityView where
  className : String
  uniqueId : String
  name : Value
  icon : Value := .null
  deviceInfo : Value
  properties : List (String × Value) := []
deriving Inhabited

/-- The entity as a document. -/
def EntityView.toValue (e : EntityView) : Value :=
  .obj ([("class", .str e.className), ("unique_id", .str e.uniqueId), ("name", e.name),
    ("icon", e.icon), ("device_info", e.deviceInfo)] ++ e.properties)

/-- Inserts a pair into a list sorted by domain, then id. -/
def insertSorted (p : String × String) : List (String × String) → List (String × String)
  | [] => [p]
  | q :: qs =>
    if p.1 < q.1 || (p.1 == q.1 && decide (p.2 ≤ q.2)) then p :: q :: qs else q :: insertSorted p qs

/-- Device identifiers as a document: sorted pairs, each once. -/
def identifiersValue (ids : List (String × String)) : Value :=
  let unique := ids.foldl (fun acc p => if acc.contains p then acc else acc ++ [p]) []
  .list ((unique.foldr insertSorted []).map fun (d, i) => .list [.str d, .str i])

/-- The text that stands for a hidden value. -/
def redacted : String := "**REDACTED**"

mutual
/-- A document with the members named in `keys` hidden at any depth. -/
def redact (keys : List String) : Value → Value
  | .obj ms => .obj (redactMembers keys ms)
  | .list xs => .list (redactList keys xs)
  | v => v

/-- The elements of a list, each redacted. -/
def redactList (keys : List String) : List Value → List Value
  | [] => []
  | v :: vs => redact keys v :: redactList keys vs

/-- The members of an object, redacted. -/
def redactMembers (keys : List String) : List (String × Value) → List (String × Value)
  | [] => []
  | (k, v) :: ms =>
    let v' := match v with
      | .null => v
      | .str "" => v
      | _ => if keys.contains k then .str redacted else redact keys v
    (k, v') :: redactMembers keys ms
end

/-- A property that may fail, as shown. -/
def propertyValue (r : Except Fault Value) (answer : Fault → Value) : Value :=
  match r with
  | .ok v => v
  | .error f => answer f

end ConnectedHome.Hub
