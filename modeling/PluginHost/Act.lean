import PluginHost.Failure

set_option autoImplicit false

namespace PluginHost

/-- How a step ends. -/
inductive Flow (α : Type) where
  | returned (value : α)
  | unwound (payload : PanicPayload)
  /-- The step goes on for ever, or for longer than it was followed. -/
  | stalled
deriving DecidableEq, Repr

namespace Flow

variable {α β : Type}

def map (f : α → β) : Flow α → Flow β
  | returned a => returned (f a)
  | unwound p => unwound p
  | stalled => stalled

/-- A panic in `origin` as a failure. -/
def caught (origin : String) : Flow (Except Failure α) → Flow (Except Failure α)
  | unwound p => returned (.error (.panicked origin p))
  | flow => flow

end Flow

/-- A step on a state. -/
def Act (σ α : Type) : Type := σ → Flow α × σ

namespace Act

variable {σ τ α β : Type}

def bind (first : Act σ α) (next : α → Act σ β) : Act σ β := fun s =>
  match first s with
  | (.returned a, s) => next a s
  | (.unwound p, s) => (.unwound p, s)
  | (.stalled, s) => (.stalled, s)

instance : Monad (Act σ) where
  pure a := fun s => (.returned a, s)
  bind := bind

/-- A step that looks at the state and changes it at once. -/
def step (f : σ → α × σ) : Act σ α := fun s => (.returned (f s).1, (f s).2)

def get : Act σ σ := fun s => (.returned s, s)

def look (f : σ → α) : Act σ α := fun s => (.returned (f s), s)

def modify (f : σ → σ) : Act σ Unit := fun s => (.returned (), f s)

def panic (payload : PanicPayload) : Act σ α := fun s => (.unwound payload, s)

def stall : Act σ α := fun s => (.stalled, s)

/-- Runs a step, turning a panic into a failure. -/
def guarded (origin : String) (act : Act σ (Except Failure α)) : Act σ (Except Failure α) :=
  fun s => ((act s).1.caught origin, (act s).2)

/-- A step on a part of the state. -/
def within (part : τ → σ) (put : σ → τ → τ) (act : Act σ α) : Act τ α := fun t =>
  ((act (part t)).1, put (act (part t)).2 t)

@[simp] theorem pure_apply (a : α) (s : σ) : (pure a : Act σ α) s = (.returned a, s) := rfl

theorem bind_apply (first : Act σ α) (next : α → Act σ β) (s : σ) :
    (first >>= next) s =
      match first s with
      | (.returned a, s) => next a s
      | (.unwound p, s) => (.unwound p, s)
      | (.stalled, s) => (.stalled, s) := rfl

theorem bind_of_returned {first : Act σ α} {next : α → Act σ β} {s : σ} {a : α}
    (returned : (first s).1 = .returned a) : (first >>= next) s = next a (first s).2 := by
  rw [bind_apply]
  generalize first s = x at returned
  obtain ⟨flow, t⟩ := x
  cases returned
  rfl

theorem bind_stalled {first : Act σ α} {s : σ} (stalled : (first s).1 = .stalled)
    (next : α → Act σ β) :
    ((first >>= next) s).1 = .stalled ∧ ((first >>= next) s).2 = (first s).2 := by
  rw [bind_apply]
  generalize first s = x at stalled
  obtain ⟨flow, t⟩ := x
  cases stalled
  exact ⟨rfl, rfl⟩

@[simp] theorem step_apply (f : σ → α × σ) (s : σ) : step f s = (.returned (f s).1, (f s).2) := rfl

@[simp] theorem get_apply (s : σ) : (get : Act σ σ) s = (.returned s, s) := rfl

@[simp] theorem look_apply (f : σ → α) (s : σ) : look f s = (.returned (f s), s) := rfl

@[simp] theorem modify_apply (f : σ → σ) (s : σ) : modify f s = (.returned (), f s) := rfl

/-- What is guarded never unwinds. -/
theorem guarded_not_unwound (origin : String) (act : Act σ (Except Failure α)) (s : σ)
    (payload : PanicPayload) : (guarded origin act s).1 ≠ .unwound payload := by
  simp only [guarded]
  cases (act s).1 <;> simp [Flow.caught]

theorem bind_assoc (first : Act σ α) {γ : Type} (next : α → Act σ β) (last : β → Act σ γ) :
    first >>= next >>= last = first >>= fun a => next a >>= last := by
  funext s
  simp only [bind_apply]
  rcases first s with ⟨flow, t⟩
  cases flow <;> rfl

theorem map_apply (f : α → β) (act : Act σ α) (s : σ) :
    (f <$> act) s = ((act s).1.map f, (act s).2) := by
  change bind act (pure ∘ f) s = _
  simp only [bind]
  rcases act s with ⟨flow, t⟩
  cases flow <;> rfl

instance : LawfulMonad (Act σ) :=
  LawfulMonad.mk' (Act σ)
    (fun first => by
      funext s
      change bind first (pure ∘ id) s = first s
      simp only [bind]
      rcases first s with ⟨flow, t⟩
      cases flow <;> rfl)
    (fun _ _ => rfl)
    (fun first next last => bind_assoc first next last)

end Act

end PluginHost
