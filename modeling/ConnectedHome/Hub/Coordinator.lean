import ConnectedHome.Document.Value
import ConnectedHome.Number.Mixed
/-!
# Coordinators

A coordinator polls one device or service for its data at an interval and hands the data it
last read to the entities (`Coordinator`).  It remembers whether its last update succeeded, and
counts the refreshes asked of it (`Coordinator.requestRefresh`): a refresh that is asked for
runs later, so asking only counts.

An interval is a duration in microseconds, made from a number of seconds the way the hub makes
durations (`secondsMicros`).  Intervals are written the way the hub writes durations
(`durationText`): `H:MM:SS`, with the days before them (`1 day, 0:00:00`) and the microseconds
after them when there are any.
-/
namespace ConnectedHome.Hub

/-- A coordinator holding data of type `α`. -/
structure Coordinator (α : Type) where
  /-- Microseconds between updates, when the coordinator polls. -/
  interval : Option Int := none
  /-- The data of the last successful update. -/
  data : Option α := none
  lastUpdateSuccess : Bool := true
  /-- Refreshes asked of the coordinator. -/
  refreshRequests : Nat := 0
deriving Inhabited

/-- The coordinator after a refresh was asked of it. -/
def Coordinator.requestRefresh {α : Type} (c : Coordinator α) : Coordinator α :=
  { c with refreshRequests := c.refreshRequests + 1 }

/-- A whole number written with at least two digits. -/
def twoDigits (n : Nat) : String := if n < 10 then s!"0{n}" else toString n

/-- A duration given in microseconds, as the hub writes durations. -/
def durationText (micros : Int) : String :=
  let perDay : Int := 86400 * 1000000
  let days := Int.fdiv micros perDay
  let rest := (micros - days * perDay).toNat
  let secs := rest / 1000000
  let us := rest % 1000000
  let clock := s!"{secs / 3600}:{twoDigits (secs / 60 % 60)}:{twoDigits (secs % 60)}"
  let frac := if us == 0 then "" else "." ++ String.ofList (List.replicate (6 - (toString us).length) '0') ++ toString us
  let plural := if days.natAbs == 1 then "" else "s"
  let dayPart := if days == 0 then "" else s!"{days} day{plural}, "
  dayPart ++ clock ++ frac

/-- A float cut toward zero and the exact rest: `x = whole + rest` with `|rest| < 1`. -/
def splitWhole (x : Float) : Float × Float :=
  let whole := if x < 0 then x.ceil else x.floor
  (whole, x - whole)

/-- The microseconds of a fraction of a second `frac` (`|frac| < 1`) on top of `whole`
microseconds: the fraction is scaled in floating point, its whole part taken as it is and the
rest rounded to the nearest microsecond, a tie going to make the total even. -/
def secondFractionMicros (whole : Int) (frac : Float) : Int :=
  let (scaledWhole, rest) := splitWhole (1000000.0 * frac)
  let total := whole + (Number.truncate scaledWhole).getD 0
  let nearest := rest.round
  let nearest := if (nearest - rest).abs == 0.5 then
      let odd : Float := if total % 2 == 0 then 0.0 else 1.0
      2.0 * ((rest + odd) * 0.5).round - odd
    else nearest
  total + (Number.truncate nearest).getD 0

/-- The most days a duration may span either way. -/
def maxDurationDays : Int := 999999999

/-- A number of seconds as a duration in microseconds.  Whole numbers are exact; a float's
whole seconds are exact and its fraction is rounded to the microsecond (`secondFractionMicros`).
Durations beyond `maxDurationDays` days either way are refused, as is any value that is no
number. -/
def secondsMicros (v : Value) : Except Fault Int := do
  let micros ← match v with
    | .int n => pure (n * 1000000)
    | .bool b => pure (if b then 1000000 else 0)
    | .float x =>
      match Number.shape x with
      | .nan => throw (.badValue "cannot convert float NaN to integer")
      | .infinite _ => throw (.overflow "cannot convert float infinity to integer")
      | .finite _ =>
        let whole := (Number.truncate x).getD 0 * 1000000
        let (_, frac) := splitWhole x
        pure (if frac == 0.0 then whole else secondFractionMicros whole frac)
    | _ => throw (.badType s!"unsupported type for timedelta seconds component: {v.kind}")
  let days := Int.fdiv micros (86400 * 1000000)
  if days < -2147483648 || days > 2147483647 then
    throw (.overflow "Python int too large to convert to C int")
  if days.natAbs > maxDurationDays.toNat then
    throw (.overflow s!"days={days}; must have magnitude <= {maxDurationDays}")
  return micros

/-- A duration in microseconds as seconds. -/
def microsSeconds (us : Int) : Float := Number.ofRatio (decide (us < 0)) us.natAbs 1000000

end ConnectedHome.Hub
