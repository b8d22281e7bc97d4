import ConnectedHome.Console.Network
/-!
# Console: sessions of steps

A session of the console is a list of steps run in order against one world (`runSteps`).  A
step names a call and its arguments and may first move the clock (`advanceClock`).  Its answer
holds the result of the call, with what the call shows beside it, or the members of its fault
(`outcomeMembers`); a call the session does not know is answered as such (`unknownCall`).
-/
namespace ConnectedHome.Console

/-- The result of a call with the members an answer shows beside it. -/
abbrev CallResult := Value × List (String × Value)

/-- The answer of an unknown call. -/
def unknownCall (call : String) : Value :=
  .obj [("error", .str "DriverError"), ("message", .str s!"unknown call {call}")]

/-- The members of an answer: a result under `result` with the members beside it, or the
fault's members. -/
def outcomeMembers (r : Except Fault CallResult) : List (String × Value) :=
  match r with
  | .ok (v, extra) => ("result", v) :: extra
  | .error f =>
    match f.toValue with
    | .obj ms => ms
    | _ => []

/-- The clock after a step's advance. -/
def advanceClock (step : Value) (o : Outside) : Except Fault Outside :=
  match step.field? "advance" with
  | some secs => o.advance secs
  | none => .ok o

/-- Runs the steps of a session in order. -/
def runSteps {σ : Type} (run : σ → Value → Value × σ) : σ → List Value → List Value
  | _, [] => []
  | s, step :: rest =>
    let (answer, s') := run s step
    answer :: runSteps run s' rest

/-- The steps of a request. -/
def stepsOf (req : Value) : List Value :=
  match req.field? "steps" with
  | some (.list ss) => ss
  | _ => []

theorem runSteps_length {σ : Type} (run : σ → Value → Value × σ) :
    ∀ (s : σ) (steps : List Value), (runSteps run s steps).length = steps.length
  | _, [] => rfl
  | s, _ :: rest => by simp [runSteps, runSteps_length run _ rest]

end ConnectedHome.Console
