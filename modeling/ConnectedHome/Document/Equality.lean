import ConnectedHome.Number.Mixed
/-!
# Equal documents

Two documents are equal when they denote the same thing (`Value.same`):

* numbers are equal when they are the same number, whatever their kind: a truth value counts as
  0 or 1, so `true`, `1` and `1.0` are one number, and NaN equals nothing, not even itself;
* texts are equal when they are the same text;
* lists are equal element by element;
* objects are equal when they have the same member names with equal values, in any order.

The hub compares documents this way when it decides whether an entry changed.
-/
namespace ConnectedHome.Value

open Number

mutual
/-- Whether two documents are equal. -/
def same : Value → Value → Bool
  | .null, .null => true
  | .str a, .str b => a == b
  | .list xs, .list ys => sameLists xs ys
  | .obj ms, .obj ns => ms.length == ns.length && sameMembers ms ns
  | a, b =>
    match Scalar.ofValue? a, Scalar.ofValue? b with
    | some x, some y => x.compare? y == some .eq
    | _, _ => false

/-- Whether two lists are equal element by element. -/
def sameLists : List Value → List Value → Bool
  | [], [] => true
  | x :: xs, y :: ys => same x y && sameLists xs ys
  | _, _ => false

/-- Whether every member of the first object is in the second with an equal value. -/
def sameMembers : List (String × Value) → List (String × Value) → Bool
  | [], _ => true
  | (k, v) :: ms, ns =>
    (match Members.lookup ns k with
     | some w => same v w
     | none => false) && sameMembers ms ns
end

end ConnectedHome.Value
