import ConnectedHome.Number.Numeral
import ConnectedHome.Text.Case
/-!
# Converting document members

Services declare the kind of each member they read: text, a whole number, a float or a truth
value.  A member that already has its kind is kept, a truth value counting as a whole number;
others are converted by the service's rules (`ConversionRules`), which differ in three ways
between the services:

* which words mean *true* (`yes` counts for the vehicle service, not for speakers);
* whether whole numbers are read through a float (`"382.00"` is `382` for the vehicle service,
  a refusal for speakers) and whether floats are converted at all;
* how truth values are written as text (`True` or `true`), and whether lists and objects are
  skipped instead of converted.

`readFlat` reads a record of such members: a missing or null member, and one whose conversion
is refused as a bad value or a bad kind, keeps its default; an overflow is not a refusal and
stops the reading.
-/
namespace ConnectedHome

/-- The declared kind of a member. -/
inductive MemberKind where
  | text
  | whole
  | real
  | truth
deriving BEq

/-- The conversion rules of a service. -/
structure ConversionRules where
  /-- Lower-case words that mean true. -/
  trueWords : List String
  /-- Whether whole numbers are read through a float. -/
  wholeThroughFloat : Bool
  /-- Whether members of the float kind are converted; otherwise they are kept as they are. -/
  convertsReal : Bool
  /-- The texts of false and true. -/
  truthText : Bool → String
  /-- Whether list and object members are skipped. -/
  skipsCollections : Bool

/-- Whether a value already has a kind; a truth value counts as a whole number. -/
def MemberKind.holds : MemberKind → Value → Bool
  | .text, .str _ => true
  | .whole, .int _ => true
  | .whole, .bool _ => true
  | .real, .float _ => true
  | .truth, .bool _ => true
  | _, _ => false

/-- Converts a value to a kind under a service's rules. -/
def ConversionRules.convert (r : ConversionRules) (k : MemberKind) (v : Value) :
    Except Fault Value :=
  if k.holds v then .ok v
  else match k with
    | .truth =>
      match v with
      | .str s => .ok (.bool (r.trueWords.contains (Text.lower s)))
      | _ => .ok (.bool v.truthy)
    | .real =>
      if r.convertsReal then do
        let x ← v.toFloat
        pure (.float x)
      else .ok v
    | .whole =>
      if r.wholeThroughFloat then do
        let x ← v.toFloat
        let i ← Number.floatToInt x
        pure (.int i)
      else do
        let i ← v.toInt
        pure (.int i)
    | .text =>
      match v with
      | .bool b => .ok (.str (r.truthText b))
      | _ => .ok (.str v.display)

/-- A member of a record: its name, the name it has in the document, its kind and default. -/
structure MemberSpec where
  name : String
  key : String
  kind : MemberKind
  default : Value := .null

/-- A member read under its own name, defaulting to null. -/
def MemberSpec.plain (name : String) (kind : MemberKind) : MemberSpec := ⟨name, name, kind, .null⟩

/-- Whether a fault is a refusal that leaves a member at its default. -/
def Fault.isConversionRefusal : Fault → Bool
  | .badValue _ | .badType _ => true
  | _ => false

/-- Reads the members of a flat record from an object.  A document that counts as absent gives
all defaults; a document that is no object cannot be read. -/
def ConversionRules.readFlat (r : ConversionRules) (specs : List MemberSpec) (doc : Value) :
    Except Fault (List (String × Value)) :=
  if !doc.truthy then .ok (specs.map fun s => (s.name, s.default))
  else specs.mapM fun s => do
    let v ← doc.get s.key
    let skip := v.isNull || (r.skipsCollections && (match v with | .list _ | .obj _ => true | _ => false))
    if skip then pure (s.name, s.default)
    else match r.convert s.kind v with
      | .ok c => pure (s.name, c)
      | .error f => if f.isConversionRefusal then pure (s.name, s.default) else throw f

/-- The vehicle service's rules: `true 1 yes on` are true, whole numbers through a float, truth
values written `True` and `False`. -/
def ConversionRules.vehicle : ConversionRules where
  trueWords := ["true", "1", "yes", "on"]
  wholeThroughFloat := true
  convertsReal := true
  truthText := fun b => if b then "True" else "False"
  skipsCollections := false

/-- The speakers' rules: `true 1 on` are true, whole numbers read directly, floats kept, truth
values written `true` and `false`, lists and objects skipped. -/
def ConversionRules.speaker : ConversionRules where
  trueWords := ["true", "1", "on"]
  wholeThroughFloat := false
  convertsReal := false
  truthText := fun b => if b then "true" else "false"
  skipsCollections := true

end ConnectedHome
