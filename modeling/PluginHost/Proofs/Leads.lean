import PluginHost.Act

set_option autoImplicit false

namespace PluginHost.Act

variable {σ α β : Type} {P Q R : σ → Prop}

theorem ended_of_returned {act : Act σ α} {s : σ} {a : α} (returned : (act s).1 = .returned a) :
    (act s).1 ≠ .stalled := by
  rw [returned]
  exact nofun

/-- Two steps return only if the first one does. -/
theorem returned_of_bind {first : Act σ α} {next : α → Act σ β} {s : σ} {b : β}
    (returned : ((first >>= next) s).1 = .returned b) :
    ∃ a, (first s).1 = .returned a ∧ (first >>= next) s = next a (first s).2 := by
  cases ran : (first s).1 with
  | returned a => exact ⟨a, rfl, bind_of_returned ran⟩
  | unwound payload =>
    rw [bind_apply] at returned
    generalize first s = x at ran returned
    obtain ⟨flow, t⟩ := x
    cases ran
    cases returned
  | stalled =>
    rw [(bind_stalled ran next).1] at returned
    cases returned

/-- From a state with one property a step comes to a state with another one, if it ends. -/
def Leads (P Q : σ → Prop) (act : Act σ α) : Prop :=
  ∀ s, P s → (act s).1 ≠ .stalled → Q (act s).2

/-- A step keeps a property, if it ends. -/
abbrev Keeps (P : σ → Prop) (act : Act σ α) : Prop := Leads P P act

namespace Leads

theorem pure (a : α) : Keeps P (Pure.pure a) := fun _ holds _ => holds

theorem get : Keeps P (Act.get : Act σ σ) := fun _ holds _ => holds

theorem look (f : σ → α) : Keeps P (Act.look f) := fun _ holds _ => holds

theorem step {f : σ → α × σ} (holds : ∀ s, P s → Q (f s).2) : Leads P Q (Act.step f) :=
  fun s given _ => holds s given

theorem panic (payload : PanicPayload) : Keeps P (Act.panic payload : Act σ α) :=
  fun _ holds _ => holds

theorem stall : Leads P Q (Act.stall : Act σ α) := fun _ _ ended => absurd rfl ended

theorem modify {f : σ → σ} (holds : ∀ s, P s → Q (f s)) : Leads P Q (Act.modify f) :=
  fun s given _ => holds s given

theorem imp {act : Act σ α} (leads : Leads P Q act) (weaker : ∀ s, Q s → R s) : Leads P R act :=
  fun s holds ended => weaker _ (leads s holds ended)

/-- What is unwound between two steps has come to the state in between. -/
theorem bind {first : Act σ α} {next : α → Act σ β} (leads : Leads P Q first)
    (rest : ∀ a, Leads Q R (next a)) (weaker : ∀ s, Q s → R s) : Leads P R (first >>= next) := by
  intro s holds ended
  have middle := leads s holds
  rw [bind_apply] at ended ⊢
  generalize first s = x at middle ended ⊢
  obtain ⟨flow, t⟩ := x
  cases flow with
  | returned a => exact rest a t (middle nofun) ended
  | unwound payload => exact weaker t (middle nofun)
  | stalled => exact absurd rfl ended

/-- A step that always returns is not unwound. -/
theorem bindReturned {first : Act σ α} {next : α → Act σ β} (leads : Leads P Q first)
    (returns : ∀ s, ∃ a, (first s).1 = .returned a) (rest : ∀ a, Leads Q R (next a)) :
    Leads P R (first >>= next) := by
  intro s holds ended
  obtain ⟨a, returned⟩ := returns s
  rw [bind_of_returned returned] at ended ⊢
  refine rest a _ (leads s holds ?_) ended
  rw [returned]
  exact nofun

theorem guarded {act : Act σ (Except Failure α)} (origin : String) (leads : Leads P Q act) :
    Leads P Q (Act.guarded origin act) := by
  intro s holds ended
  refine leads s holds fun stalled => ended ?_
  simp only [Act.guarded, stalled, Flow.caught]

/-- A step on a part of a state leads the whole to what it leads the part to. -/
theorem within {τ : Type} {part : τ → σ} {put : σ → τ → τ} {act : Act σ α}
    (leads : Leads P Q act) (back : ∀ s t, part (put s t) = s) :
    Leads (fun t => P (part t)) (fun t => Q (part t)) (Act.within part put act) := by
  intro t holds ended
  show Q (part (put (act (part t)).2 t))
  rw [back]
  exact leads (part t) holds ended

theorem andThen {first : Act σ α} {next : α → Act σ β} (keeps : Keeps P first)
    (rest : ∀ a, Keeps P (next a)) : Keeps P (first >>= next) :=
  keeps.bind rest fun _ holds => holds

end Leads

/-- A step keeps a property, and what it returns has another one. -/
structure Gives (P : σ → Prop) (Q : α → Prop) (act : Act σ α) : Prop where
  keeps : Keeps P act
  gives : ∀ s a, P s → (act s).1 = .returned a → Q a

namespace Gives

variable {T : α → Prop}

theorem step {f : σ → α × σ} (holds : ∀ s, P s → P (f s).2 ∧ T (f s).1) :
    Gives P T (Act.step f) where
  keeps := .step fun s given => (holds s given).1
  gives s a given returned := by
    cases returned
    exact (holds s given).2

theorem get : Gives P P (Act.get : Act σ σ) where
  keeps := .get
  gives s a given returned := by
    cases returned
    exact given

theorem look {f : σ → α} (holds : ∀ s, P s → T (f s)) : Gives P T (Act.look f) where
  keeps := .look f
  gives s a given returned := by
    cases returned
    exact holds s given

theorem pure {a : α} (holds : T a) : Gives P T (Pure.pure a) where
  keeps := .pure a
  gives s b _ returned := by
    cases returned
    exact holds

/-- What a step gives that comes after another one. -/
theorem after {first : Act σ α} {next : α → Act σ β} {T : β → Prop} (keeps : Keeps P first)
    (rest : ∀ a, Gives P T (next a)) : Gives P T (first >>= next) where
  keeps := keeps.andThen fun a => (rest a).keeps
  gives s b given returned := by
    obtain ⟨a, came, same⟩ := returned_of_bind returned
    rw [same] at returned
    exact (rest a).gives _ b (keeps s given (ended_of_returned came)) returned

theorem andThen {first : Act σ α} {next : α → Act σ β} (given : Gives P T first)
    (rest : ∀ a, T a → Keeps P (next a)) : Keeps P (first >>= next) := by
  intro s holds ended
  have middle := given.keeps s holds
  have value := given.gives s
  rw [bind_apply] at ended ⊢
  generalize first s = x at middle value ended ⊢
  obtain ⟨flow, t⟩ := x
  cases flow with
  | returned a => exact rest a (value a holds rfl) t (middle nofun) ended
  | unwound payload => exact middle nofun
  | stalled => exact absurd rfl ended

end Gives

/-- From a state with one property a step comes to a state with another one, if it returns. -/
def Brings (P : σ → Prop) (Q : α → σ → Prop) (act : Act σ α) : Prop :=
  ∀ s a, P s → (act s).1 = .returned a → Q a (act s).2

namespace Brings

variable {middle : α → σ → Prop} {last : β → σ → Prop}

theorem pure {a : α} (holds : ∀ s, P s → middle a s) : Brings P middle (Pure.pure a) := by
  intro s b given returned
  cases returned
  exact holds s given

theorem modify {f : σ → σ} {middle : Unit → σ → Prop} (holds : ∀ s, P s → middle () (f s)) :
    Brings P middle (Act.modify f) := fun s _ given _ => holds s given

theorem of_leads {act : Act σ α} (leads : Leads P Q act) : Brings P (fun _ => Q) act :=
  fun s _ given returned => leads s given (ended_of_returned returned)

theorem bind {first : Act σ α} {next : α → Act σ β} (brings : Brings P middle first)
    (rest : ∀ a, Brings (middle a) last (next a)) : Brings P last (first >>= next) := by
  intro s b given returned
  obtain ⟨a, came, same⟩ := returned_of_bind returned
  rw [same] at returned ⊢
  exact rest a _ b (brings s a given came) returned

/-- What a step comes to after another one, whatever that one does. -/
theorem after {first : Act σ α} {next : α → Act σ β}
    (rest : ∀ a, Brings (fun _ => True) last (next a)) : Brings P last (first >>= next) :=
  bind (fun _ _ _ _ => trivial) rest

end Brings

end PluginHost.Act
