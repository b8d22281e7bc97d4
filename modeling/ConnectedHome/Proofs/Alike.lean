import ConnectedHome.Proofs.Triples
/-!
# Alike runs — what an observer cannot tell apart

`Exec.Alike v R x₁ x₂`: run from two states with the same view `v`, the computations `x₁` and
`x₂` yield results related by `R`, or the same fault, and reach states with the same view again.
The view is what an observer may see of the state.  `Alike v Eq x x` is noninterference: what the
view hides cannot change what `x` yields, nor what the observer sees afterwards.

The rules follow the constructors of a computation, like those of `Exec.Triple`, with the two
sides in step: `x₁` and `x₂` may differ where they only handle what the view hides (two requests
that differ in their bodies, say), and `R` relates results that carry hidden parts.
-/
namespace ConnectedHome
namespace Exec

variable {σ τ υ ι α β γ δ : Type}

/-- **Outcomes related by `R`**: two results related by `R`, or one and the same fault. -/
def Outcomes (R : α → β → Prop) : Except Fault α → Except Fault β → Prop
  | .ok a, .ok b => R a b
  | .error f, .error g => f = g
  | _, _ => False

@[simp] theorem outcomes_eq {r₁ r₂ : Except Fault α} : Outcomes Eq r₁ r₂ ↔ r₁ = r₂ := by
  cases r₁ <;> cases r₂ <;> simp [Outcomes]

/-- **Runs that end alike**: from states with the same view, `x₁` and `x₂` yield outcomes related
by `R` and reach states with the same view. -/
def Alike (v : σ → τ) (R : α → β → Prop) (x₁ : Exec σ α) (x₂ : Exec σ β) : Prop :=
  ∀ s₁ s₂, v s₁ = v s₂ →
    Outcomes R (x₁.run' s₁).1 (x₂.run' s₂).1 ∧ v (x₁.run' s₁).2 = v (x₂.run' s₂).2

namespace Alike

variable {v : σ → τ} {R : α → β → Prop} {S : γ → δ → Prop}

theorem run' {x₁ x₂ : Exec σ α} (h : Alike v Eq x₁ x₂) {s₁ s₂ : σ} (hs : v s₁ = v s₂) :
    (x₁.run' s₁).1 = (x₂.run' s₂).1 ∧ v (x₁.run' s₁).2 = v (x₂.run' s₂).2 := by
  obtain ⟨hr, hv⟩ := h s₁ s₂ hs
  exact ⟨outcomes_eq.1 hr, hv⟩

theorem pure {a : α} {b : β} (h : R a b) : Alike v R (Pure.pure a : Exec σ α) (Pure.pure b) :=
  fun _ _ hs => ⟨h, hs⟩

theorem throw {f : Fault} : Alike v R (MonadExcept.throw f : Exec σ α) (MonadExcept.throw f) :=
  fun _ _ hs => ⟨rfl, hs⟩

theorem lift {r₁ : Except Fault α} {r₂ : Except Fault β} (h : Outcomes R r₁ r₂) :
    Alike v R (Exec.lift r₁) (Exec.lift r₂) :=
  fun _ _ hs => ⟨h, hs⟩

/-- Reading the state yields two states with the same view. -/
theorem get : Alike v (fun s₁ s₂ => v s₁ = v s₂) (get : Exec σ σ) get :=
  fun _ _ hs => ⟨hs, hs⟩

theorem modify {f₁ f₂ : σ → σ} (h : ∀ s₁ s₂, v s₁ = v s₂ → v (f₁ s₁) = v (f₂ s₂)) :
    Alike v Eq (modify f₁ : Exec σ Unit) (modify f₂) :=
  fun s₁ s₂ hs => ⟨rfl, h s₁ s₂ hs⟩

theorem bind {x₁ : Exec σ α} {x₂ : Exec σ β} {k₁ : α → Exec σ γ} {k₂ : β → Exec σ δ}
    (hx : Alike v R x₁ x₂) (hk : ∀ a b, R a b → Alike v S (k₁ a) (k₂ b)) :
    Alike v S (x₁ >>= k₁) (x₂ >>= k₂) := by
  intro s₁ s₂ hs
  obtain ⟨hr, hv⟩ := hx s₁ s₂ hs
  rw [run'_bind, run'_bind]
  revert hr hv
  -- a fault on one side only contradicts `hr`; what is left is the same fault on both sides, or
  -- two related results the continuations go on from
  rcases x₁.run' s₁ with ⟨_ | a, t₁⟩ <;> rcases x₂.run' s₂ with ⟨_ | b, t₂⟩ <;> intro hr hv <;>
    simp only [Outcomes] at hr
  · exact ⟨hr, hv⟩
  · exact hk a b hr t₁ t₂ hv

theorem throw_bind {f : Fault} {k₁ : α → Exec σ γ} {k₂ : β → Exec σ δ} :
    Alike v S ((MonadExcept.throw f : Exec σ α) >>= k₁) ((MonadExcept.throw f : Exec σ β) >>= k₂) :=
  bind (R := fun _ _ => False) throw fun _ _ h => h.elim

theorem attempt {x₁ : Exec σ α} {x₂ : Exec σ β} (h : Alike v R x₁ x₂) :
    Alike v (Outcomes R) (Exec.attempt x₁) (Exec.attempt x₂) :=
  fun s₁ s₂ hs => h s₁ s₂ hs

/-- Two runs over a part of the state, where the part's view `w` follows from the whole's and
writing back parts with the same view keeps the whole's. -/
theorem focus {w : υ → ι} {get : σ → υ} {put : σ → υ → σ} {x₁ : Exec υ α} {x₂ : Exec υ β}
    (hget : ∀ s₁ s₂, v s₁ = v s₂ → w (get s₁) = w (get s₂))
    (hput : ∀ s₁ s₂ t₁ t₂, v s₁ = v s₂ → w t₁ = w t₂ → v (put s₁ t₁) = v (put s₂ t₂))
    (h : Alike w R x₁ x₂) : Alike v R (focus get put x₁) (focus get put x₂) := by
  intro s₁ s₂ hs
  obtain ⟨hr, hw⟩ := h _ _ (hget s₁ s₂ hs)
  exact ⟨hr, hput _ _ _ _ hs hw⟩

theorem mapM {f : α → Exec σ β} {l : List α} (h : ∀ a ∈ l, Alike v Eq (f a) (f a)) :
    Alike v Eq (l.mapM f) (l.mapM f) := by
  induction l with
  | nil => exact Alike.pure rfl
  | cons a l ih =>
    rw [List.mapM_cons]
    refine bind (h a List.mem_cons_self) fun b₁ b₂ hb => ?_
    refine bind (ih fun a' ha' => h a' (List.mem_cons_of_mem a ha')) fun bs₁ bs₂ hbs => ?_
    exact Alike.pure (by rw [hb, hbs])

end Alike

end Exec
end ConnectedHome
