import PluginHost.Act

set_option autoImplicit false

namespace PluginHost.Act

variable {σ τ α β : Type}

/-- A sequence of steps is unwound where its first step is, or where the rest is. -/
theorem bind_unwound_iff {first : Act σ α} {next : α → Act σ β} {s : σ} {payload : PanicPayload} :
    ((first >>= next) s).1 = .unwound payload ↔
      (first s).1 = .unwound payload ∨
        ∃ a, (first s).1 = .returned a ∧ (next a (first s).2).1 = .unwound payload := by
  rw [bind_apply]
  generalize first s = x
  obtain ⟨flow, t⟩ := x
  cases flow <;> simp

theorem bind_of_unwound {first : Act σ α} {next : α → Act σ β} {s : σ} {payload : PanicPayload}
    (unwound : (first s).1 = .unwound payload) :
    (first >>= next) s = (.unwound payload, (first s).2) := by
  rw [bind_apply]
  generalize first s = x at unwound
  obtain ⟨flow, t⟩ := x
  cases unwound
  rfl

/-- A step that is never unwound. -/
def Unbroken (act : Act σ α) : Prop := ∀ s payload, (act s).1 ≠ .unwound payload

namespace Unbroken

theorem pure (a : α) : Unbroken (Pure.pure a : Act σ α) := fun _ _ => nofun

theorem get : Unbroken (Act.get : Act σ σ) := fun _ _ => nofun

theorem look (f : σ → α) : Unbroken (Act.look f) := fun _ _ => nofun

theorem step (f : σ → α × σ) : Unbroken (Act.step f) := fun _ _ => nofun

theorem modify (f : σ → σ) : Unbroken (Act.modify f) := fun _ _ => nofun

theorem stall : Unbroken (Act.stall : Act σ α) := fun _ _ => nofun

theorem guarded (origin : String) (act : Act σ (Except Failure α)) :
    Unbroken (Act.guarded origin act) := guarded_not_unwound origin act

theorem within {part : τ → σ} {put : σ → τ → τ} {act : Act σ α} (unbroken : Unbroken act) :
    Unbroken (Act.within part put act) := fun t => unbroken (part t)

theorem bind {first : Act σ α} {next : α → Act σ β} (unbroken : Unbroken first)
    (rest : ∀ a, Unbroken (next a)) : Unbroken (first >>= next) := by
  intro s payload unwound
  obtain now | ⟨a, _, later⟩ := bind_unwound_iff.1 unwound
  · exact unbroken s payload now
  · exact rest a _ payload later

/-- Before a rest that is never unwound only the first step may be. -/
theorem before_unwound_iff {first : Act σ α} {next : α → Act σ β} (rest : ∀ a, Unbroken (next a))
    {s : σ} {payload : PanicPayload} :
    ((first >>= next) s).1 = .unwound payload ↔ (first s).1 = .unwound payload := by
  rw [Act.bind_unwound_iff]
  exact or_iff_left fun ⟨a, _, later⟩ => rest a _ payload later

end Unbroken

/-- From one state to another in a number of steps. -/
inductive InSteps (R : σ → σ → Prop) : Nat → σ → σ → Prop
  | here (s : σ) : InSteps R 0 s s
  | step {n : Nat} {s between t : σ} (first : R s between) (rest : InSteps R n between t) :
    InSteps R (n + 1) s t

/-- What is reached in a few steps is there already or is reached after the first step. -/
theorem exists_inSteps_succ_iff {R : σ → σ → Prop} {P : σ → Prop} {limit : Nat} {s : σ} :
    (∃ n < limit + 1, ∃ t, InSteps R n s t ∧ P t) ↔
      P s ∨ ∃ between, R s between ∧ ∃ n < limit, ∃ t, InSteps R n between t ∧ P t := by
  constructor
  · rintro ⟨n, few, t, steps, holds⟩
    cases steps with
    | here => exact .inl holds
    | @step n _ between _ first rest =>
      have fewer : n < limit := by omega
      exact .inr ⟨between, first, n, fewer, t, rest, holds⟩
  · rintro (holds | ⟨between, first, n, few, t, rest, holds⟩)
    · exact ⟨0, by omega, s, .here s, holds⟩
    · exact ⟨n + 1, by omega, t, .step first rest, holds⟩

end PluginHost.Act
