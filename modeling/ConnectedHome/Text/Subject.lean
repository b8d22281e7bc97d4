import ConnectedHome.Text.TypeTable
import ConnectedHome.Text.Formatted
/-!
# What the fields of a template name

A field of a template names a value and may go on to its attributes and items (`Subject`).
Besides values, a field can reach types, tuples of types (the bases of a type, its order of
resolution) and routines: the methods, slots and descriptors of a type, bound to a value or
not.  What a type holds comes from `Text.TypeTable`; what depends on the value is computed here:

* every value has its type as `__class__`; an integer (a truth value included) has `real`,
  `numerator` (itself), `imag` (zero) and `denominator` (one), a float `real` and `imag`;
* an instance sees the attributes of its type's instances: a method becomes a built-in method
  bound to the value, a slot a method wrapper bound to it, a class method a built-in method
  bound to the type; data stays as it is;
* a type sees its row of the table, or nothing;
* a routine knows its name, qualified name, documentation, signature, type and what it is
  bound to (`__self__`) or belongs to (`__objclass__`).

Items (`Subject.item`): text and lists take a position, objects a name, tuples a position; the
generic collection types take anything and stand for the aliased type.

A subject shows (`Subject.shown`) as text does standing alone, types as `<class 'T'>`, routines
by their kind and name; a bound routine names an address, which no two runs share.
-/
namespace ConnectedHome.Text

/-- The kinds of routines, by the type they have. -/
inductive RoutineForm where
  /-- A method bound to a value or a type, or a function (`builtin_function_or_method`). -/
  | builtinMethod
  /-- A slot bound to a value (`method-wrapper`). -/
  | methodWrapper
  /-- A method of a type, not bound (`method_descriptor`). -/
  | methodDescriptor
  /-- A slot of a type, not bound (`wrapper_descriptor`). -/
  | slotWrapper
  /-- A class method of a type, not bound (`classmethod_descriptor`). -/
  | classMethod
  /-- A computed attribute of a type (`getset_descriptor`). -/
  | attributeDescriptor
  /-- A stored attribute of a type (`member_descriptor`). -/
  | memberDescriptor
deriving DecidableEq, Inhabited

/-- The name of a routine kind's type. -/
def RoutineForm.typeName : RoutineForm → String
  | .builtinMethod => "builtin_function_or_method"
  | .methodWrapper => "method-wrapper"
  | .methodDescriptor => "method_descriptor"
  | .slotWrapper => "wrapper_descriptor"
  | .classMethod => "classmethod_descriptor"
  | .attributeDescriptor => "getset_descriptor"
  | .memberDescriptor => "member_descriptor"

/-- The routine kind a row code names. -/
def RoutineForm.ofCode? : String → Option RoutineForm
  | "bm" => some .builtinMethod
  | "mw" => some .methodWrapper
  | "md" => some .methodDescriptor
  | "wd" => some .slotWrapper
  | "cd" => some .classMethod
  | "gd" => some .attributeDescriptor
  | "xd" => some .memberDescriptor
  | _ => none

/-- Whether routines of a kind are bound to something. -/
def RoutineForm.isBound : RoutineForm → Bool
  | .builtinMethod | .methodWrapper => true
  | _ => false

/-- What a field of a template can name. -/
inductive Subject where
  | value (v : Value)
  | tuple (xs : List Subject)
  | type (name : String)
  /-- A routine `name` of type `owner`; `boundTo` is what a bound routine is bound to. -/
  | routine (form : RoutineForm) (name qualname owner : String) (doc sig : Option String)
      (boundTo : Subject)
  /-- Something else, known only by its type and how it shows. -/
  | other (typeName shown : String)
deriving Inhabited

namespace Subject

/-- The name of a subject's type. -/
def typeName : Subject → String
  | .value v => v.kind
  | .tuple _ => "tuple"
  | .type _ => "type"
  | .routine form .. => form.typeName
  | .other t _ => t

/-- The text a row refers to by index. -/
def rowText (i : String) : Option String := typeTexts[i.toNat!]?

/-- An optional text a row refers to, `-` for none. -/
def rowOptText (i : String) : Option String := if i == "-" then none else rowText i

/-- The value of an optional text. -/
def ofOptText : Option String → Subject
  | some s => .value (.str s)
  | none => .value .null

/-- The owner part of a qualified name `owner.name`. -/
def ownerOf (qualname name : String) : String :=
  (qualname.dropEnd (name.length + 1)).toString

/-- What a row holds, read for the type itself, or the refusal it names. -/
def ofRow (fields : List String) : Except Fault Subject :=
  match fields with
  | ["t", i] => .ok (.value (.str ((rowText i).getD "")))
  | ["n", k] => .ok (.value (.int k.toInt!))
  | ["z"] => .ok (.value .null)
  | ["y", t] => .ok (.type t)
  | "u" :: ts => .ok (.tuple (ts.map Subject.type))
  | ["d", code, name, owner, doc, sig] =>
    match RoutineForm.ofCode? code with
    | some form => .ok (.routine form name s!"{owner}.{name}" owner (rowOptText doc) (rowOptText sig)
        (.value .null))
    | none => .error (.noAttribute name)
  | ["b", code, name, qual, doc, sig, target] =>
    let boundTo : Subject := if target.startsWith "T:" then .type (target.drop 2).toString
      else .value .null
    match RoutineForm.ofCode? code with
    | some form => .ok (.routine form name qual (ownerOf qual name) (rowOptText doc) (rowOptText sig)
        boundTo)
    | none => .error (.noAttribute name)
  | ["o", t, i] => .ok (.other t ((rowText i).getD ""))
  | ["m", i] => .error (.noAttribute ((rowText i).getD ""))
  | _ => .error (.noAttribute "")

/-- The refusal of an attribute an instance of `kind` does not have. -/
def noInstanceAttribute (kind attr : String) : Fault :=
  .noAttribute s!"'{kind}' object has no attribute '{attr}'"

/-- An attribute of `self`, an instance of `kind`, from the row of its type: methods and slots
are bound to it, class methods to the type, data stays. -/
def instanceAttribute (kind : String) (self : Subject) (attr : String) : Except Fault Subject :=
  match attributeRow? kind attr with
  | some ("A" :: fields) =>
    match fields with
    | ["d", code, name, owner, doc, sig] =>
      let qual := s!"{owner}.{name}"
      match code with
      | "md" => .ok (.routine .builtinMethod name qual owner (rowOptText doc) (rowOptText sig) self)
      | "wd" => .ok (.routine .methodWrapper name qual owner (rowOptText doc) (rowOptText sig) self)
      | "cd" => .ok (.routine .builtinMethod name qual owner (rowOptText doc) (rowOptText sig)
          (.type kind))
      | _ => ofRow fields
    | _ => ofRow fields
  | _ => .error (noInstanceAttribute kind attr)

/-- The attributes every number computes from itself. -/
def numberAttribute (v : Value) (attr : String) : Option Value :=
  match v, attr with
  | .int i, "real" | .int i, "numerator" => some (.int i)
  | .int _, "imag" => some (.int 0)
  | .int _, "denominator" => some (.int 1)
  | .bool b, "real" | .bool b, "numerator" => some (.int (if b then 1 else 0))
  | .bool _, "imag" => some (.int 0)
  | .bool _, "denominator" => some (.int 1)
  | .float x, "real" => some (.float x)
  | .float _, "imag" => some (.float 0.0)
  | _, _ => none

/-- Attribute `attr` of a subject; see the module notes. -/
def getAttr (s : Subject) (attr : String) : Except Fault Subject :=
  if attr == "__class__" then .ok (.type s.typeName)
  else match s with
  | .value v =>
    match numberAttribute v attr with
    | some x => .ok (.value x)
    | none => instanceAttribute v.kind s attr
  | .tuple _ => instanceAttribute "tuple" s attr
  | .type t =>
    match attributeRow? t attr with
    | some (_ :: fields) => ofRow fields
    | _ => .error (.noAttribute s!"type object '{t}' has no attribute '{attr}'")
  | .routine form name qual owner doc sig boundTo =>
    let kind := form.typeName
    match attributeRow? kind attr with
    | some ("A" :: _) =>
      match attr with
      | "__name__" => .ok (.value (.str name))
      | "__qualname__" => .ok (.value (.str qual))
      | "__doc__" => .ok (ofOptText doc)
      | "__text_signature__" => .ok (ofOptText sig)
      | "__self__" => .ok boundTo
      | "__objclass__" => .ok (.type owner)
      | "__module__" => .ok (.value .null)
      | _ => instanceAttribute kind s attr
    | _ => .error (noInstanceAttribute kind attr)
  | .other t _ => .error (noInstanceAttribute t attr)

/-- A key of an item: a position or a name. -/
inductive Key where
  | index (n : Nat)
  | name (s : String)

/-- A key as the literal it stands for. -/
def Key.literal : Key → String
  | .index n => toString n
  | .name s => quoteText s

mutual
/-- A subject's literal form: text quoted, tuples in parentheses, the rest as shown. -/
def literal : Subject → String
  | .value v => v.literal
  | .tuple xs => "(" ++ ", ".intercalate (literalAll xs) ++ (if xs.length == 1 then "," else "") ++ ")"
  | s => shown s

/-- The literal forms of several subjects. -/
def literalAll : List Subject → List String
  | [] => []
  | x :: xs => literal x :: literalAll xs

/-- How a subject shows standing alone. -/
def shown : Subject → String
  | .value v => v.display
  | .tuple xs => "(" ++ ", ".intercalate (literalAll xs) ++ (if xs.length == 1 then "," else "") ++ ")"
  | .type t => s!"<class '{t}'>"
  | .routine form name _ owner _ _ boundTo =>
    match form with
    | .methodDescriptor | .classMethod => s!"<method '{name}' of '{owner}' objects>"
    | .slotWrapper => s!"<slot wrapper '{name}' of '{owner}' objects>"
    | .attributeDescriptor => s!"<attribute '{name}' of '{owner}' objects>"
    | .memberDescriptor => s!"<member '{name}' of '{owner}' objects>"
    | .methodWrapper => s!"<method-wrapper '{name}' of {boundTo.typeName} object at 0x7f0000000000>"
    | .builtinMethod =>
      match boundTo with
      | .value .null => s!"<built-in function {name}>"
      | b => s!"<built-in method {name} of {b.typeName} object at 0x7f0000000000>"
  | .other _ text => text
end

/-- The collection types whose items are aliases of the type. -/
def aliasedTypes : List String := ["list", "dict", "tuple", "type"]

/-- Item `key` of a subject; see the module notes. -/
def item (s : Subject) (key : Key) : Except Fault Subject :=
  match s, key with
  | .value (.str t), .index n =>
    match t.toList[n]? with
    | some c => .ok (.value (.str (String.singleton c)))
    | none => .error (.badIndex "string index out of range")
  | .value (.str _), .name _ => .error (.badType "string indices must be integers, not 'str'")
  | .value (.list xs), .index n =>
    match xs[n]? with
    | some x => .ok (.value x)
    | none => .error (.badIndex "list index out of range")
  | .value (.list _), .name _ => .error (.badType "list indices must be integers or slices, not str")
  | .value (.obj ms), .name k =>
    match ms.lookup k with
    | some x => .ok (.value x)
    | none => .error (.missingKey k)
  | .value (.obj _), .index n => .error (.missingIndex n)
  | .tuple xs, .index n =>
    match xs[n]? with
    | some x => .ok x
    | none => .error (.badIndex "tuple index out of range")
  | .tuple _, .name _ => .error (.badType "tuple indices must be integers or slices, not str")
  | .type t, k =>
    if aliasedTypes.contains t then .ok (.other "types.GenericAlias" s!"{t}[{k.literal}]")
    else .error (.badType s!"type '{t}' is not subscriptable")
  | s, _ => .error (.badType s!"'{s.typeName}' object is not subscriptable")

/-- A subject laid out by a format specification: values by their type, anything else only by
the empty specification. -/
def format (spec : List Char) : Subject → Except Fault String
  | .value v => formatValue spec v
  | s => if spec.isEmpty then .ok s.shown else .error (unsupportedSpec s.typeName)

end Subject

end ConnectedHome.Text
