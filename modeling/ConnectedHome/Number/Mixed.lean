import ConnectedHome.Number.Numeral
/-!
# Arithmetic across whole numbers and floats

Times and durations arrive as whole numbers or floats, and truth values count as the whole
numbers 0 and 1.  Adding two whole numbers gives a whole number; adding a float to anything
gives a float, the whole number first turned into its nearest float (refused beyond the largest
float).  Comparisons are exact: a whole number and a float are compared as the numbers they
denote, and NaN is neither larger nor smaller than anything.
-/
namespace ConnectedHome.Number

/-- A number of either kind. -/
inductive Scalar where
  | whole (i : Int)
  | real (x : Float)
deriving Inhabited

/-- The number a value denotes: whole numbers, truth values and floats. -/
def Scalar.ofValue? : Value → Option Scalar
  | .int i => some (.whole i)
  | .bool b => some (.whole (if b then 1 else 0))
  | .float x => some (.real x)
  | _ => none

/-- The number as a value. -/
def Scalar.toValue : Scalar → Value
  | .whole i => .int i
  | .real x => .float x

/-- The float of a number, refused for whole numbers beyond the largest float. -/
def Scalar.toFloat : Scalar → Except Fault Float
  | .whole i => intToFloat i
  | .real x => .ok x

/-- The sum of two numbers. -/
def Scalar.add : Scalar → Scalar → Except Fault Scalar
  | .whole a, .whole b => .ok (.whole (a + b))
  | a, b => do return .real ((← a.toFloat) + (← b.toFloat))

/-- The exact order of an integer and a finite float given as a fraction. -/
def compareIntRatio (i : Int) (neg : Bool) (n d : Nat) : Ordering :=
  let lhs : Int := i * d
  let rhs : Int := if neg then -(n : Int) else n
  compare lhs rhs

/-- The exact order of two numbers; none when one is NaN. -/
def Scalar.compare? : Scalar → Scalar → Option Ordering
  | .whole a, .whole b => some (compare a b)
  | .whole a, .real y =>
    match shape y with
    | .nan => none
    | .infinite neg => some (if neg then .gt else .lt)
    | .finite d => let (neg, n, den) := d.ratio; some (compareIntRatio a neg n den)
  | .real x, .whole b =>
    match shape x with
    | .nan => none
    | .infinite neg => some (if neg then .lt else .gt)
    | .finite d => let (neg, n, den) := d.ratio; some (compareIntRatio b neg n den).swap
  | .real x, .real y =>
    if x.isNaN || y.isNaN then none
    else if x < y then some .lt else if x == y then some .eq else some .gt

/-- Whether the first number is at least the second. -/
def Scalar.atLeast (a b : Scalar) : Bool :=
  match a.compare? b with
  | some .lt => false
  | some _ => true
  | none => false

end ConnectedHome.Number

namespace ConnectedHome.Value

open Number

/-- The sum of two values that are numbers; other values cannot be added. -/
def plus (a b : Value) : Except Fault Value :=
  match Scalar.ofValue? a, Scalar.ofValue? b with
  | some x, some y => (x.add y).map Scalar.toValue
  | _, _ => .error (.badType s!"unsupported operand type(s) for +: '{a.kind}' and '{b.kind}'")

/-- Whether the first of two values that are numbers is at least the second. -/
def atLeast (a b : Value) : Except Fault Bool :=
  match Scalar.ofValue? a, Scalar.ofValue? b with
  | some x, some y => .ok (x.atLeast y)
  | _, _ => .error (.badType s!"'>=' not supported between instances of '{a.kind}' and '{b.kind}'")

end ConnectedHome.Value
