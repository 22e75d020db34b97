import PluginHost.Act

set_option autoImplicit false

namespace PluginHost.Act

variable {σ τ α β : Type} {R : σ → τ → Prop}

/-- From related states both steps end with the same result, and in related states. -/
def Alike (R : σ → τ → Prop) (first : Act σ α) (second : Act τ α) : Prop :=
  ∀ s t, R s t → (second t).1 = (first s).1 ∧ R (first s).2 (second t).2

namespace Alike

theorem pure (a : α) : Alike R (Pure.pure a) (Pure.pure a) := fun _ _ related => ⟨rfl, related⟩

theorem panic (payload : PanicPayload) :
    Alike R (Act.panic payload : Act σ α) (Act.panic payload) := fun _ _ related => ⟨rfl, related⟩

theorem stall : Alike R (Act.stall : Act σ α) Act.stall := fun _ _ related => ⟨rfl, related⟩

theorem bind {first : Act σ α} {second : Act τ α} {next : α → Act σ β} {later : α → Act τ β}
    (alike : Alike R first second) (rest : ∀ a, Alike R (next a) (later a)) :
    Alike R (first >>= next) (second >>= later) := by
  intro s t related
  obtain ⟨same, after⟩ := alike s t related
  simp only [bind_apply]
  generalize first s = x at same after
  generalize second t = y at same after
  obtain ⟨flow, s'⟩ := x
  obtain ⟨_, t'⟩ := y
  cases same
  cases flow with
  | returned a => exact rest a s' t' after
  | unwound payload => exact ⟨rfl, after⟩
  | stalled => exact ⟨rfl, after⟩

theorem modify {f : σ → σ} {g : τ → τ} (step : ∀ s t, R s t → R (f s) (g t)) :
    Alike R (Act.modify f) (Act.modify g) := fun s t related => ⟨rfl, step s t related⟩

theorem look {f : σ → α} {g : τ → α} (same : ∀ s t, R s t → g t = f s) :
    Alike R (Act.look f) (Act.look g) := by
  intro s t related
  exact ⟨by rw [look_apply, look_apply, same s t related], related⟩

theorem step {f : σ → α × σ} {g : τ → α × τ}
    (both : ∀ s t, R s t → (g t).1 = (f s).1 ∧ R (f s).2 (g t).2) :
    Alike R (Act.step f) (Act.step g) := by
  intro s t related
  obtain ⟨same, after⟩ := both s t related
  exact ⟨by rw [step_apply, step_apply, same], after⟩

theorem guarded {first : Act σ (Except Failure α)} {second : Act τ (Except Failure α)}
    (origin : String) (alike : Alike R first second) :
    Alike R (Act.guarded origin first) (Act.guarded origin second) := by
  intro s t related
  obtain ⟨same, after⟩ := alike s t related
  exact ⟨congrArg (Flow.caught origin) same, after⟩

end Alike

end PluginHost.Act
