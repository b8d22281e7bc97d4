import ConnectedHome.Fault
import ConnectedHome.Number.Mixed
import ConnectedHome.Text.Blank
import ConnectedHome.Text.Case
/-!
# Schemas

A schema says what a document must look like and turns an acceptable document into the one the
hub works with (`Validator`).  Configuration, form input and service calls all pass through one.

The checks:

* `text` takes text as it is and writes numbers and truth values as text; null, lists and
  objects are refused;
* `boolean` reads truth values leniently: the words `1 true yes on enable` and
  `0 false no off disable` in any case and with blanks around, and any number, nonzero being true;
* `exactBool` takes only `true` and `false`;
* `oneOf` takes one of the listed texts;
* `wholeNumber` converts to a whole number as the hub's number reading does (text is read,
  floats are cut toward zero); an infinite float is a fault rather than a complaint;
* `range` bounds a number on either side;
* `all` runs checks one after another, each on the result of the one before;
* `listOf` checks every element of a list;
* `object` checks the members of an object against its keys: a missing key with a default gets
  the default, then every member is checked in order, a member without a key is refused unless
  extra members are allowed, and required keys still missing are reported last.

A rejected document gets a list of complaints, each with the path to the value it is about; the
first one is the message the hub reports (`Validator.validate`).  A complaint about the value of
an object's member says so (`for dictionary value`).  When a list element fails deep inside, that
failure is reported at once; when an element fails as a whole, the other elements are checked
first.

Each validator is compiled into a checking function by structural recursion over the validator
(`Validator.checker`), so the walk over the document needs no termination argument of its own.
-/
namespace ConnectedHome.Hub

open Number

/-- A step of the way into a document: a member name or a list position. -/
inductive PathStep where
  | member (name : String)
  | index (i : Nat)

/-- The step as a message writes it: a quoted name or a number. -/
def PathStep.literal : PathStep → String
  | .member k => quoteText k
  | .index i => toString i

/-- A complaint about a value: what is wrong and where. -/
structure Complaint where
  msg : String
  path : List PathStep
  /-- Whether the complaint is about the value of an object's member. -/
  aboutMember : Bool := false

/-- The complaint as the hub words it. -/
def Complaint.text (c : Complaint) : String :=
  let base := if c.aboutMember then c.msg ++ " for dictionary value" else c.msg
  match c.path with
  | [] => base
  | ps => base ++ " @ data[" ++ "][".intercalate (ps.map PathStep.literal) ++ "]"

/-- Why a value did not pass: complaints, the first one first, or a fault that is no complaint
about the value's shape. -/
inductive Rejection where
  | complaints (cs : List Complaint)
  | fault (f : Fault)

/-- The outcome of a check: the value as the check makes it, or why it did not pass. -/
abbrev Checked := Except Rejection Value

/-- A check of the value at a path. -/
abbrev Checker := List PathStep → Value → Checked

/-- One complaint about the value at `path`. -/
def complain (msg : String) (path : List PathStep) : Checked :=
  .error (.complaints [{ msg, path }])

/-- A key of an object schema. -/
structure SchemaKey where
  name : String
  required : Bool
  /-- The value a missing member takes. -/
  default : Option Value := none

/-- What a document must look like; see the module notes. -/
inductive Validator where
  | text
  | boolean
  | exactBool
  | oneOf (choices : List String)
  | wholeNumber
  | range (least most : Option Int)
  | all (steps : List Validator)
  | listOf (item : Validator)
  | object (keys : List (SchemaKey × Validator)) (extra : Bool)

/-- The words read as true. -/
def trueWords : List String := ["1", "true", "yes", "on", "enable"]

/-- The words read as false. -/
def falseWords : List String := ["0", "false", "no", "off", "disable"]

/-- Checks text. -/
def checkText : Checker := fun path v =>
  match v with
  | .null => complain "string value is None" path
  | .str _ => .ok v
  | .list _ | .obj _ => complain "value should be a string" path
  | _ => .ok (.str v.display)

/-- Checks a leniently read truth value; a refused text is quoted lower-cased and trimmed. -/
def checkBoolean : Checker := fun path v =>
  match v with
  | .bool _ => .ok v
  | .str s =>
    let t := Text.trimBlanks (Text.lower s)
    if trueWords.contains t then .ok (.bool true)
    else if falseWords.contains t then .ok (.bool false)
    else complain s!"invalid boolean value {t}" path
  | .int i => .ok (.bool (i != 0))
  | .float x => .ok (.bool !(x == 0.0))
  | _ => complain s!"invalid boolean value {v.display}" path

/-- Checks an exact truth value. -/
def checkExactBool : Checker := fun path v =>
  match v with
  | .bool _ => .ok v
  | _ => complain "expected bool" path

/-- Texts in increasing order. -/
def sortTexts (ts : List String) : List String := ts.mergeSort fun a b => !decide (b < a)

/-- Checks that a value is one of the texts `choices`; the complaint lists them in order. -/
def checkOneOf (choices : List String) : Checker := fun path v =>
  match v with
  | .str s => if choices.contains s then .ok v
    else complain s!"value must be one of {(Value.ofStrings (sortTexts choices)).literal}" path
  | _ => complain s!"value must be one of {(Value.ofStrings (sortTexts choices)).literal}" path

/-- Checks a value convertible to a whole number. -/
def checkWholeNumber : Checker := fun path v =>
  match v.toInt with
  | .ok i => .ok (.int i)
  | .error (.overflow m) => .error (.fault (.overflow m))
  | .error _ => complain "expected int" path

/-- Checks that a number lies within bounds. -/
def checkRange (least most : Option Int) : Checker := fun path v =>
  match Scalar.ofValue? v with
  | none => complain "invalid value or type (must have a partial ordering)" path
  | some x =>
    match least, most with
    | some m, _ =>
      if !x.atLeast (.whole m) then complain s!"value must be at least {m}" path
      else match most with
        | some n => if !(Scalar.whole n).atLeast x then complain s!"value must be at most {n}" path
          else .ok v
        | none => .ok v
    | none, some n =>
      if !(Scalar.whole n).atLeast x then complain s!"value must be at most {n}" path else .ok v
    | none, none => .ok v

/-- Runs checks one after another. -/
def checkAll (cs : List Checker) : Checker := fun path v =>
  cs.foldlM (fun acc c => c path acc) v

/-- Whether a complaint list starts deeper than `depth` steps. -/
def startsBelow (cs : List Complaint) (depth : Nat) : Bool :=
  match cs with
  | c :: _ => decide (depth < c.path.length)
  | [] => false

/-- Checks the elements of a list from position `i` on; `out` holds the checked elements in
reverse, `errs` the complaints about whole elements so far. -/
def checkElements (item : Checker) (path : List PathStep) :
    Nat → List Value → List Value → List Complaint → Checked
  | _, [], out, errs => if errs.isEmpty then .ok (.list out.reverse) else .error (.complaints errs)
  | i, x :: xs, out, errs =>
    let here := path ++ [.index i]
    match item here x with
    | .ok y => checkElements item path (i + 1) xs (y :: out) errs
    | .error (.fault f) => .error (.fault f)
    | .error (.complaints cs) =>
      if startsBelow cs here.length then .error (.complaints cs)
      else checkElements item path (i + 1) xs out (errs ++ cs)

/-- Checks a list element by element. -/
def checkList (item : Checker) : Checker := fun path v =>
  match v with
  | .list xs => checkElements item path 0 xs [] []
  | _ => complain "expected a list" path

/-- Checks the members of an object in order; `out` holds the checked members, `errs` the
complaints so far and `missing` the required keys not met yet. -/
def checkMembers (keys : List (SchemaKey × Checker)) (extra : Bool) (path : List PathStep) :
    List (String × Value) → Members → List Complaint → List String → Checked
  | [], out, errs, missing =>
    let errs := errs ++ missing.map fun k => { msg := "required key not provided", path := path ++ [.member k] }
    if errs.isEmpty then .ok (.obj out) else .error (.complaints errs)
  | (k, v) :: rest, out, errs, missing =>
    let here := path ++ [.member k]
    match keys.find? (fun kc => kc.1.name == k) with
    | some (_, c) =>
      let missing := missing.filter (· != k)
      match c here v with
      | .ok w => checkMembers keys extra path rest (out.put k w) errs missing
      | .error (.fault f) => .error (.fault f)
      | .error (.complaints cs) =>
        let cs := cs.map fun e => if e.path.length ≤ here.length then { e with aboutMember := true } else e
        checkMembers keys extra path rest out (errs ++ cs) missing
    | none =>
      if extra then checkMembers keys extra path rest (out.put k v) errs missing
      else checkMembers keys extra path rest out (errs ++ [{ msg := "extra keys not allowed", path := here }])
        missing

/-- The members of an object with the defaults of missing keys added after them. -/
def withDefaults (keys : List SchemaKey) (ms : Members) : Members :=
  keys.foldl (fun acc k =>
    match k.default with
    | some d => if acc.any (·.1 == k.name) then acc else acc ++ [(k.name, d)]
    | none => acc) ms

/-- Checks an object against its keys. -/
def checkObject (keys : List (SchemaKey × Checker)) (extra : Bool) : Checker := fun path v =>
  match v with
  | .obj ms =>
    let required := (keys.filter (·.1.required)).map (·.1.name)
    checkMembers keys extra path (withDefaults (keys.map (·.1)) ms) [] [] required
  | _ => complain "expected a dictionary" path

mutual
/-- The check a validator stands for. -/
def Validator.checker : Validator → Checker
  | .text => checkText
  | .boolean => checkBoolean
  | .exactBool => checkExactBool
  | .oneOf cs => checkOneOf cs
  | .wholeNumber => checkWholeNumber
  | .range a b => checkRange a b
  | .all vs => checkAll (Validator.checkers vs)
  | .listOf item => checkList item.checker
  | .object keys extra => checkObject (Validator.keyCheckers keys) extra

/-- The checks of a list of validators. -/
def Validator.checkers : List Validator → List Checker
  | [] => []
  | v :: vs => v.checker :: Validator.checkers vs

/-- The checks of the keys of an object schema. -/
def Validator.keyCheckers : List (SchemaKey × Validator) → List (SchemaKey × Checker)
  | [] => []
  | (k, v) :: rest => (k, v.checker) :: Validator.keyCheckers rest
end

/-- The document a validator makes of `doc`, or the fault the hub reports: the first complaint
as a schema fault. -/
def Validator.validate (v : Validator) (doc : Value) : Except Fault Value :=
  match v.checker [] doc with
  | .ok w => .ok w
  | .error (.fault f) => .error f
  | .error (.complaints cs) => .error (.schema ((cs.head?.map Complaint.text).getD ""))

/-- The validator of a form or a service call: an object with exactly the given keys. -/
def formValidator (keys : List (SchemaKey × Validator)) : Validator := .object keys false

/-- A bound as shown: the number or null. -/
def boundValue : Option Int → Value
  | some n => .int n
  | none => .null

mutual
/-- The validator as a document. -/
def Validator.describe : Validator → Value
  | .text => .str "string"
  | .boolean => .str "boolean"
  | .exactBool => .str "bool"
  | .oneOf cs => .obj [("in", Value.ofStrings cs)]
  | .wholeNumber => .obj [("coerce", .str "int")]
  | .range a b => .obj [("range", .list [boundValue a, boundValue b])]
  | .all vs => .obj [("all", .list (Validator.describeAll vs))]
  | .listOf item => .obj [("list", item.describe)]
  | .object keys _ => .obj [("schema", .list (Validator.describeKeys keys))]

/-- The validators of a list as documents. -/
def Validator.describeAll : List Validator → List Value
  | [] => []
  | v :: vs => v.describe :: Validator.describeAll vs

/-- The keys of an object schema as documents, in order. -/
def Validator.describeKeys : List (SchemaKey × Validator) → List Value
  | [] => []
  | (k, v) :: rest =>
    let default := match k.default with
      | some d => [("default", d)]
      | none => []
    .obj ([("key", .str k.name), ("required", .bool k.required), ("validator", v.describe)] ++ default)
      :: Validator.describeKeys rest
end

end ConnectedHome.Hub
