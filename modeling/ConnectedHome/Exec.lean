import ConnectedHome.Fault
/-!
# Computations over a state that may fail

The clients of the hub talk to devices and services over a network: every request changes
what the network has seen, and a request can fail.  `Exec σ α` is such a computation over a
state `σ`: it yields an `α` or stops with a fault, and in both cases hands on the state it
reached, so that a request sent before a failure stays sent.

* `Exec.run'` runs a computation from a state;
* `Exec.focus` runs a computation over a part of a larger state, and writes the part back;
* `Exec.attempt` runs a computation and yields its outcome instead of stopping on a fault.

The lemmas say how `run'` goes through `pure`, `bind` and the combinators, so that a proof
about a composed computation never unfolds the monad.
-/
namespace ConnectedHome

/-- A computation over a state of type `σ` that yields an `α` or stops with a fault. -/
abbrev Exec (σ α : Type) := ExceptT Fault (StateM σ) α

namespace Exec

variable {σ τ α β : Type}

/-- Runs a computation from state `s`: its outcome and the state it reached. -/
def run' (x : Exec σ α) (s : σ) : Except Fault α × σ := x.run.run s

/-- A computation built from its effect on the state. -/
def ofRun (f : σ → Except Fault α × σ) : Exec σ α := ExceptT.mk fun s => f s

/-- Runs `x` over the part `get s` of the state and writes the part it reached back with
`put`. -/
def focus (get : σ → τ) (put : σ → τ → σ) (x : Exec τ α) : Exec σ α :=
  ofRun fun s =>
    let (r, t) := x.run' (get s)
    (r, put s t)

/-- Runs `x` and yields its outcome; a fault of `x` does not stop the computation. -/
def attempt (x : Exec σ α) : Exec σ (Except Fault α) :=
  ofRun fun s =>
    let (r, s') := x.run' s
    (.ok r, s')

/-- A result computed without the state. -/
def lift (r : Except Fault α) : Exec σ α := ofRun fun s => (r, s)

@[simp] theorem run'_pure (a : α) (s : σ) : (pure a : Exec σ α).run' s = (.ok a, s) := rfl

@[simp] theorem run'_throw (f : Fault) (s : σ) :
    (throw f : Exec σ α).run' s = (.error f, s) := rfl

@[simp] theorem run'_ofRun (f : σ → Except Fault α × σ) (s : σ) : (ofRun f).run' s = f s := rfl

theorem run'_bind (x : Exec σ α) (k : α → Exec σ β) (s : σ) :
    (x >>= k).run' s =
      match x.run' s with
      | (.ok a, s') => (k a).run' s'
      | (.error f, s') => (.error f, s') := by
  simp only [run', bind, ExceptT.bind, ExceptT.mk, ExceptT.run, StateT.run, StateT.bind]
  rcases x s with ⟨_ | _, _⟩ <;> rfl

@[simp] theorem run'_focus (get : σ → τ) (put : σ → τ → σ) (x : Exec τ α) (s : σ) :
    (focus get put x).run' s = ((x.run' (get s)).1, put s (x.run' (get s)).2) := rfl

@[simp] theorem run'_attempt (x : Exec σ α) (s : σ) :
    (attempt x).run' s = (.ok (x.run' s).1, (x.run' s).2) := rfl

@[simp] theorem run'_get (s : σ) : (get : Exec σ σ).run' s = (.ok s, s) := rfl

@[simp] theorem run'_modify (f : σ → σ) (s : σ) :
    (modify f : Exec σ Unit).run' s = (.ok (), f s) := rfl

@[simp] theorem run'_lift (r : Except Fault α) (s : σ) : (lift r : Exec σ α).run' s = (r, s) := rfl

/-- A computation followed by a computation without the state runs the first and binds its result. -/
theorem run'_bind_lift (x : Exec σ α) (k : α → Except Fault β) (s : σ) :
    (x >>= fun a => lift (k a)).run' s = ((x.run' s).1.bind k, (x.run' s).2) := by
  rw [run'_bind]
  rcases x.run' s with ⟨_ | _, _⟩ <;> rfl

end Exec

end ConnectedHome
