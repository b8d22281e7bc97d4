import ConnectedHome.Exec
/-!
# Triples — what a computation guarantees of the state it leaves

`Exec.Triple P x Q E`: from every state that satisfies `P`, the computation `x` reaches a state
that satisfies `Q` with its result, or `E` with its fault.  A computation that fails still hands
on the state it reached (a request sent before a failure stays sent), so the fault's state has a
condition of its own.

The rules follow the constructors of a computation (`pure`, `throw`, `lift`, `get`, `modify`,
`focus`, `attempt` and `>>=`), so that a proof about a composed computation is a chain of rule
applications and never unfolds the monad.  The assertions may name the state a run started
from, as a parameter of the predicates.
-/
namespace ConnectedHome
namespace Exec

variable {σ τ α β : Type}

/-- **What `x` guarantees**: from every state that satisfies `P`, the state `x` reaches satisfies
`Q` with the result, or `E` with the fault. -/
def Triple (P : σ → Prop) (x : Exec σ α) (Q : α → σ → Prop) (E : Fault → σ → Prop) : Prop :=
  ∀ s, P s → match x.run' s with
    | (.ok a, s') => Q a s'
    | (.error f, s') => E f s'

namespace Triple

variable {P P' : σ → Prop} {Q Q' : α → σ → Prop} {E E' : Fault → σ → Prop}

/-- The triple at one state, by the outcome of the run. -/
theorem of_run' {x : Exec σ α}
    (h : ∀ s, P s → (∀ a s', x.run' s = (.ok a, s') → Q a s') ∧ (∀ f s', x.run' s = (.error f, s') → E f s')) :
    Triple P x Q E := by
  intro s hs
  obtain ⟨hok, herr⟩ := h s hs
  rcases hx : x.run' s with ⟨_ | a, s'⟩
  · exact herr _ _ hx
  · exact hok _ _ hx

/-- A weaker precondition and stronger postconditions. -/
theorem conseq {x : Exec σ α} (h : Triple P x Q E) (hp : ∀ s, P' s → P s) (hq : ∀ a s, Q a s → Q' a s)
    (he : ∀ f s, E f s → E' f s) : Triple P' x Q' E' := by
  intro s hs
  have h1 := h s (hp s hs)
  rcases hx : x.run' s with ⟨_ | a, s'⟩ <;> rw [hx] at h1
  · exact he _ _ h1
  · exact hq _ _ h1

/-- A fact the precondition states may be used to prove the triple. -/
theorem of_fact {c : Prop} {x : Exec σ α} (h : c → Triple P x Q E) : Triple (fun s => c ∧ P s) x Q E :=
  fun s ⟨hc, hs⟩ => h hc s hs

/-- A value the precondition speaks of may be named. -/
theorem of_exists {γ : Type} {P : γ → σ → Prop} {x : Exec σ α} (h : ∀ c, Triple (P c) x Q E) :
    Triple (fun s => ∃ c, P c s) x Q E :=
  fun s ⟨c, hs⟩ => h c s hs

theorem pure {a : α} (h : ∀ s, P s → Q a s) : Triple P (Pure.pure a : Exec σ α) Q E :=
  fun s hs => h s hs

theorem throw {f : Fault} (h : ∀ s, P s → E f s) : Triple P (MonadExcept.throw f : Exec σ α) Q E :=
  fun s hs => h s hs

theorem lift {r : Except Fault α} (hok : ∀ a, r = .ok a → ∀ s, P s → Q a s)
    (herr : ∀ f, r = .error f → ∀ s, P s → E f s) : Triple P (Exec.lift r) Q E := by
  intro s hs
  rw [run'_lift]
  cases r with
  | ok a => exact hok a rfl s hs
  | error f => exact herr f rfl s hs

theorem get {Q : σ → σ → Prop} (h : ∀ s, P s → Q s s) : Triple P (get : Exec σ σ) Q E :=
  fun s hs => h s hs

theorem modify {f : σ → σ} {Q : Unit → σ → Prop} (h : ∀ s, P s → Q () (f s)) :
    Triple P (modify f : Exec σ Unit) Q E :=
  fun s hs => h s hs

theorem set {s' : σ} {Q : Unit → σ → Prop} (h : ∀ s, P s → Q () s') : Triple P (set s' : Exec σ Unit) Q E :=
  fun s hs => h s hs

/-- **Triples compose**: what `x` guarantees of its result is what `k` starts from. -/
theorem bind {x : Exec σ α} {k : α → Exec σ β} {R : β → σ → Prop} (hx : Triple P x Q E)
    (hk : ∀ a, Triple (Q a) (k a) R E) : Triple P (x >>= k) R E := by
  intro s hs
  have h1 := hx s hs
  rw [run'_bind]
  rcases hr : x.run' s with ⟨_ | a, s'⟩ <;> rw [hr] at h1
  · exact h1
  · exact hk a s' h1

/-- A computation on a part of the state: what it does to the part, written back. -/
theorem focus {get : σ → τ} {put : σ → τ → σ} {x : Exec τ α}
    (h : ∀ s, P s → match x.run' (get s) with
      | (.ok a, t) => Q a (put s t)
      | (.error f, t) => E f (put s t)) : Triple P (Exec.focus get put x) Q E := by
  intro s hs
  have h1 := h s hs
  rw [run'_focus]
  rcases hx : x.run' (get s) with ⟨_ | a, t⟩ <;> rw [hx] at h1 <;> exact h1

/-- An attempt yields the outcome of `x`, so both of its outcomes go to `Q`. -/
theorem attempt {x : Exec σ α} {Q : Except Fault α → σ → Prop}
    (h : Triple P x (fun a => Q (.ok a)) (fun f => Q (.error f))) : Triple P (Exec.attempt x) Q E := by
  intro s hs
  have h1 := h s hs
  rw [run'_attempt]
  rcases hx : x.run' s with ⟨_ | a, s'⟩ <;> rw [hx] at h1 <;> exact h1

/-- Every computation guarantees nothing. -/
theorem of_true {x : Exec σ α} : Triple P x (fun _ _ => True) (fun _ _ => True) := by
  intro s _
  rcases x.run' s with ⟨_ | _, _⟩ <;> trivial

/-- A result computed without the state keeps the precondition. -/
theorem lift_keeps {r : Except Fault α} : Triple P (Exec.lift r) (fun _ => P) (fun _ _ => True) :=
  lift (fun _ _ _ hs => hs) fun _ _ _ _ => trivial

/-- A fault stops the run before its continuation. -/
theorem throw_bind {f : Fault} {k : α → Exec σ β} {R : β → σ → Prop} :
    Triple P ((MonadExcept.throw f : Exec σ α) >>= k) R (fun _ _ => True) :=
  bind (Q := fun _ _ => False) (throw fun _ _ => trivial) fun _ _ h => h.elim

/-- A loop keeps what each of its rounds keeps. -/
theorem forIn {I : σ → Prop} {xs : List α} {b : β} {f : α → β → Exec σ (ForInStep β)}
    (h : ∀ a b, Triple I (f a b) (fun _ => I) E) : Triple I (forIn xs b f) (fun _ => I) E := by
  induction xs generalizing b with
  | nil => exact pure fun _ hs => hs
  | cons a as ih =>
    rw [List.forIn_cons]
    refine bind (h a b) fun r => ?_
    cases r with
    | done b' => exact pure fun _ hs => hs
    | yield b' => exact ih

end Triple

/-- **An invariant of `x`**: from a state that satisfies `I`, `x` reaches one that satisfies `I`,
whether it succeeds or fails. -/
def Keeps (I : σ → Prop) (x : Exec σ α) : Prop := Triple I x (fun _ => I) (fun _ => I)

namespace Keeps

variable {I : σ → Prop}

theorem bind {x : Exec σ α} {k : α → Exec σ β} (hx : Keeps I x) (hk : ∀ a, Keeps I (k a)) : Keeps I (x >>= k) :=
  Triple.bind hx hk

theorem pure {a : α} : Keeps I (Pure.pure a : Exec σ α) := Triple.pure fun _ h => h

theorem throw {f : Fault} : Keeps I (MonadExcept.throw f : Exec σ α) := Triple.throw fun _ h => h

theorem lift {r : Except Fault α} : Keeps I (Exec.lift r) :=
  Triple.lift (fun _ _ _ h => h) (fun _ _ _ h => h)

theorem get : Keeps I (get : Exec σ σ) := Triple.get fun _ h => h

theorem modify {f : σ → σ} (h : ∀ s, I s → I (f s)) : Keeps I (modify f : Exec σ Unit) := Triple.modify h

theorem attempt {x : Exec σ α} (h : Keeps I x) : Keeps I (Exec.attempt x) := Triple.attempt h

theorem forIn {xs : List α} {b : β} {f : α → β → Exec σ (ForInStep β)} (h : ∀ a b, Keeps I (f a b)) :
    Keeps I (forIn xs b f) :=
  Triple.forIn h

/-- What an invariant says of one run. -/
theorem run' {x : Exec σ α} (h : Keeps I x) {s : σ} (hs : I s) : I (x.run' s).2 := by
  have h1 := h s hs
  rcases hx : x.run' s with ⟨_ | a, s'⟩ <;> rw [hx] at h1 <;> exact h1

end Keeps

end Exec
end ConnectedHome
