/-!
# Documents

A document is what the services exchange and what the hub stores: the null value, truth
values, integers of any size, binary floating-point numbers, text, lists and objects.

Integers and floats are kept apart.  `3` and `3.0` are written differently, convert
differently and count as different kinds in every message that names a kind.  An object keeps
its members in the order they were first written, and writing a member again replaces its
value where it stands (`Members.put`), so the order of a document is part of its value.

Reading a member of something that is not an object is a fault of its own (`Value.get`): the
services are handed whatever the other side sent, and a list or a text where an object was
expected is an answer the hub has to report, not a crash.
-/
namespace ConnectedHome

/-- A document value. -/
inductive Value where
  | null
  | bool (b : Bool)
  | int (i : Int)
  | float (x : Float)
  | str (s : String)
  | list (xs : List Value)
  | obj (members : List (String × Value))
deriving Inhabited

/-- The members of an object, in writing order. -/
abbrev Members := List (String × Value)

namespace Members

/-- The value of the first member named `k`. -/
def lookup (ms : Members) (k : String) : Option Value :=
  match ms.find? (fun m => m.1 == k) with
  | some m => some m.2
  | none => none

/-- Writes member `k`: in place when it exists, at the end otherwise. -/
def put (ms : Members) (k : String) (v : Value) : Members :=
  if ms.any (fun m => m.1 == k) then ms.map (fun m => if m.1 == k then (k, v) else m)
  else ms ++ [(k, v)]

/-- Builds an object from members written one after another: a repeated name keeps its first
place and its last value. -/
def ofList (ms : List (String × Value)) : Members :=
  ms.foldl (fun acc m => acc.put m.1 m.2) []

/-- Removes member `k`. -/
def erase (ms : Members) (k : String) : Members :=
  ms.filter (fun m => m.1 != k)

/-- The member names in order. -/
def names (ms : Members) : List String := ms.map (·.1)

end Members

/-- Reading a member just written gives the value written. -/
theorem Members.lookup_put (ms : Members) (k : String) (v : Value) :
    (ms.put k v).lookup k = some v := by
  induction ms with
  | nil => simp [Members.put, Members.lookup]
  | cons m rest ih =>
    obtain ⟨a, b⟩ := m
    by_cases h : a = k
    · subst h
      simp [Members.put, Members.lookup]
    · have hne : (a == k) = false := by simpa using h
      unfold Members.put at ih ⊢
      unfold Members.lookup at ih ⊢
      by_cases hr : rest.any (fun m => m.1 == k) = true
      · simp only [List.any_cons, hne, Bool.false_or, hr, if_true, List.map_cons, List.find?_cons] at ih ⊢
        simp [hne]
        simpa [hr] using ih
      · simp only [Bool.not_eq_true] at hr
        simp only [List.any_cons, hne, Bool.false_or, hr] at ih ⊢
        simp [hne]
        simpa [hr] using ih

/-- Reading a member of an object's members is the first-match lookup of the list. -/
theorem Members.lookup_eq (ms : Members) (k : String) : ms.lookup k = List.lookup k ms := by
  induction ms with
  | nil => rfl
  | cons m rest ih =>
    obtain ⟨a, b⟩ := m
    unfold Members.lookup at ih ⊢
    by_cases h : a = k
    · subst h; simp
    · have hne : (k == a) = false := by simp only [beq_eq_false_iff_ne, ne_eq]; exact fun e => h e.symm
      have hne' : (a == k) = false := by simpa using h
      rw [List.lookup_cons, hne]
      simp only [List.find?_cons, hne']
      exact ih

namespace Value

/-- The name of a value's kind, as messages about wrong kinds spell it. -/
def kind : Value → String
  | .null => "NoneType"
  | .bool _ => "bool"
  | .int _ => "int"
  | .float _ => "float"
  | .str _ => "str"
  | .list _ => "list"
  | .obj _ => "dict"

/-- Whether a value counts as present: everything but null, false, zero, the empty text,
the empty list and the empty object.  A NaN counts as present. -/
def truthy : Value → Bool
  | .null => false
  | .bool b => b
  | .int i => i != 0
  | .float x => !(x == 0.0)
  | .str s => !s.isEmpty
  | .list xs => !xs.isEmpty
  | .obj ms => !ms.isEmpty

/-- The value itself when it counts as present, `fallback` otherwise. -/
def orElse (v fallback : Value) : Value := if v.truthy then v else fallback

/-- The member `k` of an object; none for anything else or a missing member. -/
def field? : Value → String → Option Value
  | .obj ms, k => ms.lookup k
  | _, _ => none

/-- The member `k` of an object, null when missing or when the value is no object. -/
def fieldD (v : Value) (k : String) : Value := (v.field? k).getD .null

/-- The text of a value that is text. -/
def str? : Value → Option String
  | .str s => some s
  | _ => none

/-- Whether a value is the null value. -/
def isNull : Value → Bool
  | .null => true
  | _ => false

/-- Whether a value is an object. -/
def isObj : Value → Bool
  | .obj _ => true
  | _ => false

/-- The members of an object, none for anything else. -/
def members? : Value → Option Members
  | .obj ms => some ms
  | _ => none

/-- An object from members in writing order. -/
def ofMembers (ms : List (String × Value)) : Value := .obj ms

/-- Text or null. -/
def ofOption : Option String → Value
  | some s => .str s
  | none => .null

/-- A list of texts. -/
def ofStrings (xs : List String) : Value := .list (xs.map .str)

/-- A truth value or null. -/
def ofBoolOption : Option Bool → Value
  | some b => .bool b
  | none => .null

end Value

end ConnectedHome
