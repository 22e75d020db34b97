import PluginHost.Act

set_option autoImplicit false

namespace PluginHost.Act

variable {σ τ α β γ δ : Type} {R : σ → τ → Prop}

/-- From related states, unless the first step goes on for ever, the second one ends with the same
result, and in related states. -/
def Matches (R : σ → τ → Prop) (first : Act σ α) (second : Act τ α) : Prop :=
  ∀ s t, R s t → (first s).1 ≠ .stalled →
    (second t).1 = (first s).1 ∧ R (first s).2 (second t).2

namespace Matches

theorem pure (a : α) : Matches R (Pure.pure a) (Pure.pure a) := fun _ _ related _ => ⟨rfl, related⟩

theorem panic (payload : PanicPayload) :
    Matches R (Act.panic payload : Act σ α) (Act.panic payload) :=
  fun _ _ related _ => ⟨rfl, related⟩

/-- Anything follows a step that goes on for ever. -/
theorem stall (second : Act τ α) : Matches R Act.stall second :=
  fun _ _ _ ended => absurd rfl ended

theorem bind {first : Act σ α} {second : Act τ α} {next : α → Act σ β} {later : α → Act τ β}
    (same : Matches R first second) (rest : ∀ a, Matches R (next a) (later a)) :
    Matches R (first >>= next) (second >>= later) := by
  intro s t related ended
  have begun := same s t related
  rw [bind_apply, bind_apply] at *
  generalize first s = x at begun ended ⊢
  generalize second t = y at begun ⊢
  obtain ⟨flow, s'⟩ := x
  obtain ⟨_, t'⟩ := y
  cases flow with
  | returned a =>
    obtain ⟨rfl, after⟩ := begun nofun
    exact rest a s' t' after ended
  | unwound payload =>
    obtain ⟨rfl, after⟩ := begun nofun
    exact ⟨rfl, after⟩
  | stalled => exact absurd rfl ended

theorem modify {f : σ → σ} {g : τ → τ} (both : ∀ s t, R s t → R (f s) (g t)) :
    Matches R (Act.modify f) (Act.modify g) := fun s t related _ => ⟨rfl, both s t related⟩

theorem step {f : σ → α × σ} {g : τ → α × τ}
    (both : ∀ s t, R s t → (g t).1 = (f s).1 ∧ R (f s).2 (g t).2) :
    Matches R (Act.step f) (Act.step g) := by
  intro s t related _
  obtain ⟨same, after⟩ := both s t related
  exact ⟨by rw [step_apply, step_apply, same], after⟩

/-- What is looked up may differ, as long as what is done with it does not. -/
theorem look {f : σ → γ} {g : τ → δ} {next : γ → Act σ α} {later : δ → Act τ α}
    (rest : ∀ s t, R s t → Matches R (next (f s)) (later (g t))) :
    Matches R (Act.look f >>= next) (Act.look g >>= later) :=
  fun s t related ended => rest s t related s t related ended

theorem get {next : σ → Act σ α} {later : τ → Act τ α}
    (rest : ∀ s t, R s t → Matches R (next s) (later t)) :
    Matches R (Act.get >>= next) (Act.get >>= later) :=
  fun s t related ended => rest s t related s t related ended

theorem guarded {first : Act σ (Except Failure α)} {second : Act τ (Except Failure α)}
    (origin : String) (same : Matches R first second) :
    Matches R (Act.guarded origin first) (Act.guarded origin second) := by
  intro s t related ended
  have begun : (first s).1 ≠ .stalled := fun stalled => ended (congrArg (Flow.caught origin) stalled)
  obtain ⟨result, after⟩ := same s t related begun
  exact ⟨congrArg (Flow.caught origin) result, after⟩

/-- Steps on related parts of related states. -/
theorem within {υ ω : Type} {S : υ → ω → Prop} {part : υ → σ} {put : σ → υ → υ} {own : ω → τ}
    {back : τ → ω → ω} {first : Act σ α} {second : Act τ α} (same : Matches R first second)
    (parts : ∀ x y, S x y → R (part x) (own y))
    (puts : ∀ x y s t, S x y → R s t → S (put s x) (back t y)) :
    Matches S (Act.within part put first) (Act.within own back second) := by
  intro x y related ended
  obtain ⟨result, after⟩ := same (part x) (own y) (parts x y related) ended
  exact ⟨result, puts x y _ _ related after⟩

end Matches

end PluginHost.Act
