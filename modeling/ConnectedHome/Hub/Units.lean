import ConnectedHome.Number.Binary
/-!
# Units of measurement

The hub converts between units of one dimension.  Four dimensions are known, tried in this
order: distance, duration, temperature and volume (`Dimension.all`).  A conversion takes the
first dimension that knows both units (`Dimension.common?`).

Distance, duration and volume are ratio scales: every unit has a factor relative to a base
unit, and a value converts as `value / factor(from) · factor(to)`.  Temperature is affine and
has its own formulas between kelvin, degrees Celsius and degrees Fahrenheit.  Converting a
unit to itself is the identity.

The factors are the floats the hub computes from the exact definitions of the units; they are
written here by their shortest decimals and built with correct rounding.
-/
namespace ConnectedHome.Hub

open Number

/-- A float written by its shortest decimal `digits · 10^exp`. -/
def lit (digits : Nat) (exp : Int) : Float := ofDecimal false digits exp

/-- A dimension of measurement. -/
inductive Dimension where
  | distance
  | duration
  | temperature
  | volume
deriving BEq

/-- The dimensions in the order conversions try them. -/
def Dimension.all : List Dimension := [.distance, .duration, .temperature, .volume]

/-- The factors of the units of a ratio dimension. -/
def Dimension.factors : Dimension → List (String × Float)
  | .distance =>
    [("m", 1.0), ("mm", 1000.0), ("cm", 100.0), ("km", lit 1 (-3)),
     ("in", lit 3937007874015748 (-14)), ("ft", lit 3280839895013124 (-15)),
     ("yd", lit 1093613298337708 (-15)), ("mi", lit 621371192237334 (-18))]
  | .duration =>
    [("μs", 1000000.0), ("ms", 1000.0), ("s", 1.0), ("min", 1.0 / 60.0), ("h", 1.0 / 3600.0),
     ("d", 1.0 / 86400.0), ("w", 1.0 / 604800.0)]
  | .temperature => [("°C", 1.0), ("°F", 1.0), ("K", 1.0)]
  | .volume =>
    [("L", 1000.0), ("mL", 1000000.0), ("gal", lit 26417205235814845 (-14)),
     ("fl. oz.", lit 33814022701843 (-9)), ("m³", 1.0), ("ft³", lit 353146667214886 (-13)),
     ("CCF", lit 353146667214886 (-15))]

/-- Whether a dimension knows a unit. -/
def Dimension.knows (d : Dimension) (u : String) : Bool := d.factors.any (·.1 == u)

/-- The first dimension that knows both units. -/
def Dimension.common? (a b : String) : Option Dimension :=
  Dimension.all.find? (fun d => d.knows a && d.knows b)

/-- Zero degrees Celsius in kelvin. -/
def kelvinOffset : Float := lit 27315 (-2)

/-- Degrees Fahrenheit per kelvin. -/
def fahrenheitRatio : Float := lit 18 (-1)

/-- Converts a temperature. -/
def convertTemperature (x : Float) (src dst : String) : Float :=
  if src == dst then x
  else match src, dst with
    | "°C", "°F" => x * fahrenheitRatio + 32.0
    | "°C", "K" => x + kelvinOffset
    | "°F", "°C" => (x - 32.0) / fahrenheitRatio
    | "°F", "K" => kelvinOffset + ((x - 32.0) / fahrenheitRatio)
    | "K", "°C" => x - kelvinOffset
    | "K", "°F" => (x - kelvinOffset) * fahrenheitRatio + 32.0
    | _, _ => x

/-- Converts a value between two units of a dimension. -/
def Dimension.convert (d : Dimension) (x : Float) (src dst : String) : Float :=
  if src == dst then x
  else match d with
    | .temperature => convertTemperature x src dst
    | _ =>
      let f (u : String) : Float := ((d.factors.find? (·.1 == u)).map (·.2)).getD 1.0
      x / f src * f dst

end ConnectedHome.Hub
