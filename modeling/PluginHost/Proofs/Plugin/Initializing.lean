import PluginHost.Proofs.Plugin.Answers

set_option autoImplicit false

namespace PluginHost

namespace Manner

def settingUp (seen : Options) : Manner :=
  ⟨.setUp, "Initializing plugin", "Plugin initialization failed", fun plugin => plugin.setUp seen⟩

end Manner

namespace Ensemble

variable {dispatch : Dispatch} {seen : Options} {e : Ensemble}

theorem callSetUp_eq (options : Options) (slot : Slot) (index : Nat) :
    callSetUp dispatch options slot index = (do
      match ← announced (.settingUp options) dispatch slot with
      | .error failure => pure (.error failure)
      | .ok _ =>
        changeLifecycle fun l => l.list index
        pure (.ok ())) := by
  rw [callSetUp, announced, Act.bind_assoc]
  congr 1
  funext _
  rw [Act.bind_assoc]
  congr 1
  funext answer
  cases answer <;> rfl

/-- A plugin is called with the options, and joins the order if it answers well. -/
theorem callSetUp_called (dispatch : Dispatch) (seen : Options) {slot : Slot} (index : Nat)
    (own : (slot.serial, slot.plugin) ∈ e.lifecycle.registry.members) :
    ((callSetUp dispatch seen slot index e).1 = .stalled ∧
      Endless dispatch (.settingUp seen) e [] (callSetUp dispatch seen slot index e).2) ∨
    ∃ result replies, (callSetUp dispatch seen slot index e).1 = .returned result ∧
      Called dispatch (.settingUp seen) e replies (callSetUp dispatch seen slot index e).2 ∧
      (callSetUp dispatch seen slot index e).2.lifecycle.fresh = e.lifecycle.fresh := by
  rw [callSetUp_eq]
  rcases announced_called (.settingUp seen) dispatch own with
    ⟨stalled, endless⟩ | ⟨answer, returned, same, called⟩
  · obtain ⟨stalled, kept⟩ := Act.bind_stalled stalled _
    rw [kept]
    exact .inl ⟨stalled, endless⟩
  · rw [Act.bind_of_returned returned]
    have fresh : (announced (.settingUp seen) dispatch slot e).2.lifecycle.fresh =
        e.lifecycle.fresh := by rw [same]
    cases answer with
    | error failure => exact .inr ⟨_, _, rfl, called, fresh⟩
    | ok value => exact .inr ⟨_, _, rfl, called.relabel rfl, fresh⟩

/-- A step that calls plugins with some options, if it may go deep enough. It goes on for ever only
if the call of a plugin does. -/
def Initializes (dispatch : Dispatch) (seen : Options) (depth : Nat)
    (act : Act Ensemble (Except Failure Unit)) : Prop :=
  ∀ e, e.lifecycle.fresh.card < depth →
    ((act e).1 = .stalled ∧ ∃ replies, Endless dispatch (.settingUp seen) e replies (act e).2) ∨
    ∃ result replies, (act e).1 = .returned result ∧
      Called dispatch (.settingUp seen) e replies (act e).2 ∧
      (act e).2.lifecycle.fresh ⊆ e.lifecycle.fresh

theorem setUpDependencies_initializes {depth : Nat}
    {setUp : Nat → Act Ensemble (Except Failure Unit)}
    (each : ∀ index, Initializes dispatch seen depth (setUp index)) (owner : Nat)
    (indices : List Nat) :
    Initializes dispatch seen depth (setUpDependencies setUp owner indices) := by
  induction indices with
  | nil => exact fun e _ => .inr ⟨.ok (), [], rfl, .refl e, Finset.Subset.refl _⟩
  | cons index rest ih =>
    intro e enough
    simp only [setUpDependencies, Act.bind_apply, Act.look_apply]
    by_cases pending : e.lifecycle.isPending index
    · rw [if_pos pending]
      exact .inr ⟨_, [], rfl, .refl e, Finset.Subset.refl _⟩
    · rw [if_neg pending]
      rcases each index e enough with
        ⟨stalled, replies, endless⟩ | ⟨result, replies, returned, called, fewer⟩
      · obtain ⟨stalled, kept⟩ := Act.bind_stalled stalled _
        exact .inl ⟨stalled, replies, kept ▸ endless⟩
      · rw [Act.bind_of_returned returned]
        cases result with
        | error failure => exact .inr ⟨_, replies, rfl, called, fewer⟩
        | ok _ =>
          have atMost := Finset.card_le_card fewer
          rcases ih (setUp index e).2 (by omega) with
            ⟨stalled, later, endless⟩ | ⟨result, later, returned, others, fewerLater⟩
          · exact .inl ⟨stalled, _, called.endless endless⟩
          · exact .inr ⟨result, _, returned, called.trans others, fewerLater.trans fewer⟩

theorem setUpAt_initializes (depth index : Nat) :
    Initializes dispatch seen depth (setUpAt dispatch seen depth index) := by
  induction depth generalizing index with
  | zero =>
    intro e enough
    omega
  | succ depth ih =>
    intro e enough
    simp only [setUpAt, Act.bind_apply, Act.look_apply]
    cases found : e.lifecycle.registry.slots[index]? with
    | none => exact .inr ⟨.ok (), [], rfl, .refl e, Finset.Subset.refl _⟩
    | some slot =>
      by_cases fresh : slot.state = .registered
      · simp only [if_pos fresh, Act.bind_apply, Act.look_apply, changeLifecycle, Act.modify_apply]
        have registered := fresh ▸ Lifecycle.stateAt_of_slot found
        have members := Registry.members_setState e.lifecycle.registry index .initialized
        have marked : Called dispatch (.settingUp seen) e []
            { e with lifecycle := e.lifecycle.setState index .initialized } :=
          (Called.refl e).relabel members
        have fewer := (Lifecycle.Advances.mark registered).fresh_subset
        cases (e.lifecycle.setState index .initialized).registry.dependencies e.host index with
        | error failure => exact .inr ⟨.error failure, [], rfl, marked, fewer⟩
        | ok needed =>
          -- it is marked before what it needs is visited, so one plugin fewer is fresh below
          have deep := Lifecycle.card_fresh_mark registered
          dsimp only
          rcases setUpDependencies_initializes ih index needed
            { e with lifecycle := e.lifecycle.setState index .initialized }
            (Nat.lt_of_lt_of_le deep (Nat.le_of_lt_succ enough)) with
            ⟨stalled, replies, endless⟩ | ⟨result, replies, returned, called, others⟩
          · obtain ⟨stalled, kept⟩ := Act.bind_stalled stalled _
            exact .inl ⟨stalled, _, kept ▸ marked.endless endless⟩
          · have begun := marked.trans called
            simp only [Act.bind_of_returned returned]
            cases result with
            | error failure => exact .inr ⟨_, _, rfl, begun, others.trans fewer⟩
            | ok _ =>
              have own : (slot.serial, slot.plugin) ∈ e.lifecycle.registry.members :=
                List.mem_map.2 ⟨slot, List.mem_of_getElem? found, rfl⟩
              rw [← begun.members] at own
              rcases callSetUp_called dispatch seen index own with
                ⟨stalled, endless⟩ | ⟨result, last, returned, calledLast, same⟩
              · exact .inl ⟨stalled, _, begun.endless endless⟩
              · exact .inr ⟨result, _, returned, begun.trans calledLast,
                  (same ▸ others).trans fewer⟩
      · simp only [fresh, if_false]
        exact .inr ⟨.ok (), [], rfl, .refl e, Finset.Subset.refl _⟩

/-- Setting up a plugin by name calls plugins with the options that are given, and goes on for ever
only in the call of one. -/
theorem setUp_called (dispatch : Dispatch) (name : String) (seen : Options) (e : Ensemble) :
    ((setUp dispatch name seen e).1 = .stalled ∧
      ∃ replies, Endless dispatch (.settingUp seen) e replies (setUp dispatch name seen e).2) ∨
    ∃ result replies, (setUp dispatch name seen e).1 = .returned result ∧
      Called dispatch (.settingUp seen) e replies (setUp dispatch name seen e).2 := by
  cases named : e.lifecycle.registry.resolve name with
  | error failure =>
    rw [setUp_of_unknown named]
    exact .inr ⟨_, [], rfl, .refl e⟩
  | ok index =>
    have begins : setUp dispatch name seen e = setUpAt dispatch seen e.depth index e := by
      simp only [setUp, Act.bind_apply, Act.get_apply, named]
    have enough : e.lifecycle.fresh.card < e.depth :=
      Nat.lt_succ_of_le e.lifecycle.card_fresh_le
    rw [begins]
    rcases setUpAt_initializes e.depth index e enough with
      never | ⟨result, replies, returned, called, _⟩
    · exact .inl never
    · exact .inr ⟨result, replies, returned, called⟩

end Ensemble

end PluginHost
