import PluginHost.Proofs.Plugin.Visits

set_option autoImplicit false

namespace PluginHost

namespace Act

variable {σ α : Type}

/-- What is guarded returns or goes on for ever. -/
theorem guarded_cases (origin : String) (act : Act σ (Except Failure α)) (s : σ) :
    (∃ result, (guarded origin act s).1 = .returned result) ∨
      (guarded origin act s).1 = .stalled := by
  simp only [guarded]
  cases (act s).1 with
  | returned result => exact .inl ⟨result, rfl⟩
  | unwound payload => exact .inl ⟨_, rfl⟩
  | stalled => exact .inr rfl

end Act

namespace Ensemble

variable {dispatch : Dispatch}

/-- A call of a plugin leaves the lifecycle alone. If it goes on for ever, the last thing that is
recorded is that it began. -/
theorem invoke_cases (dispatch : Dispatch) (slot : Slot) (hook : Hook) (code : Code)
    (e : Ensemble) :
    (∃ result h, invoke dispatch slot hook code e = (.returned result,
      { e with host := h, calls := e.calls ++ slot.called hook result.toBool })) ∨
    (invoke dispatch slot hook code e).1 = .stalled ∧
      (invoke dispatch slot hook code e).2.calls = e.calls ++ [.entered slot.serial hook] := by
  rcases Act.guarded_cases ("plugin '" ++ slot.plugin.name ++ "' " ++ hook.word) (dispatch code)
    e.host with ⟨result, returned⟩ | stalled
  · left
    refine ⟨result, (Act.guarded ("plugin '" ++ slot.plugin.name ++ "' " ++ hook.word)
      (dispatch code) e.host).2, ?_⟩
    simp only [invoke, Act.bind_apply, record, Act.modify_apply, onHost, Act.within, returned,
      Act.pure_apply, Slot.called, List.append_assoc, List.cons_append, List.nil_append]
  · right
    simp only [invoke, Act.bind_apply, record, Act.modify_apply, onHost, Act.within, stalled,
      and_self]

/-- What a call to set itself up does to the lifecycle. -/
theorem callSetUp_cases (dispatch : Dispatch) (options : Options) (slot : Slot) (index : Nat)
    (e : Ensemble) :
    (∃ failure h, callSetUp dispatch options slot index e = (.returned (.error failure),
      { e with host := h, calls := e.calls ++ slot.called .setUp false })) ∨
    (∃ h, callSetUp dispatch options slot index e = (.returned (.ok ()),
      { lifecycle := e.lifecycle.list index, host := h
        calls := e.calls ++ slot.called .setUp true })) ∨
    (callSetUp dispatch options slot index e).1 = .stalled ∧
      (callSetUp dispatch options slot index e).2.calls =
        e.calls ++ [.entered slot.serial .setUp] := by
  unfold callSetUp
  rw [Act.bind_of_returned (a := ()) rfl]
  generalize told : (tell .lifecycle .info "Initializing plugin" _ e).2 = e'
  have same : e'.lifecycle = e.lifecycle ∧ e'.calls = e.calls := by
    subst told
    exact ⟨rfl, rfl⟩
  rcases invoke_cases dispatch slot .setUp (slot.plugin.setUp options) e' with
    ⟨result, k, returned⟩ | ⟨stalled, recorded⟩
  · rw [Act.bind_of_returned (a := result) (by rw [returned]), returned]
    rw [same.1, same.2]
    cases result with
    | error failure => exact .inl ⟨failure, _, rfl⟩
    | ok value => exact .inr (.inl ⟨k, rfl⟩)
  · obtain ⟨stalled, kept⟩ := Act.bind_stalled stalled _
    exact .inr (.inr ⟨stalled, by rw [kept, recorded, same.2]⟩)

/-- A call of a plugin goes on for ever: that it began is the last thing in the record. -/
def Stuck (hook : Hook) (before after : Ensemble) : Prop :=
  ∃ calls plugin, after.calls = before.calls ++ (calls ++ [.entered plugin hook])

theorem Stuck.trans {hook : Hook} {before middle after : Ensemble} {calls : List Call}
    (recorded : middle.calls = before.calls ++ calls) (stuck : Stuck hook middle after) :
    Stuck hook before after := by
  obtain ⟨later, plugin, last⟩ := stuck
  refine ⟨calls ++ later, plugin, ?_⟩
  rw [last, recorded, List.append_assoc, List.append_assoc]

/-- Nothing follows a step that goes on for ever. -/
theorem Stuck.bind {α β : Type} {hook : Hook} {e : Ensemble} {act : Act Ensemble α}
    (stuck : (act e).1 = .stalled ∧ Stuck hook e (act e).2) (next : α → Act Ensemble β) :
    ((act >>= next) e).1 = .stalled ∧ Stuck hook e ((act >>= next) e).2 := by
  obtain ⟨stalled, kept⟩ := Act.bind_stalled stuck.1 next
  exact ⟨stalled, kept ▸ stuck.2⟩

/-- Between two states a plugin was called to set itself up, and nothing came after that. -/
def HangsIn (before after : Ensemble) : Prop :=
  ∃ calls plugin, after.calls = before.calls ++ (calls ++ [.entered plugin .setUp])

theorem HangsIn.trans {before middle after : Ensemble} {calls : List Call}
    (recorded : middle.calls = before.calls ++ calls) (hangs : HangsIn middle after) :
    HangsIn before after :=
  Stuck.trans recorded hangs

/-- A step that sets up what is visited, if it may go deep enough. It goes on for ever only if the
call of a plugin does. -/
def SetsUpBy (depth : Nat) (visit : Visit) (act : Act Ensemble (Except Failure Unit)) : Prop :=
  ∀ e, e.lifecycle.fresh.card < depth →
    (act e).1 = .stalled ∧ HangsIn e (act e).2 ∨ ∃ result calls, (act e).1 = .returned result ∧
      (act e).2.calls = e.calls ++ calls ∧
      Lifecycle.SetsUp visit e.lifecycle calls result (act e).2.lifecycle

theorem HangsIn.bind {e : Ensemble} {act : Act Ensemble (Except Failure Unit)}
    (hangs : (act e).1 = .stalled ∧ HangsIn e (act e).2)
    (next : Except Failure Unit → Act Ensemble (Except Failure Unit)) :
    ((act >>= next) e).1 = .stalled ∧ HangsIn e ((act >>= next) e).2 :=
  Stuck.bind hangs next

theorem setUpDependencies_setsUp {depth : Nat} {setUp : Nat → Act Ensemble (Except Failure Unit)}
    (visits : ∀ index, SetsUpBy depth (.plugin index) (setUp index)) (owner : Nat)
    (indices : List Nat) :
    SetsUpBy depth (.needs owner indices) (setUpDependencies setUp owner indices) := by
  induction indices with
  | nil =>
    intro e _
    exact .inr ⟨.ok (), [], rfl, (List.append_nil _).symm, .nil⟩
  | cons index rest ih =>
    intro e enough
    simp only [setUpDependencies, Act.bind_apply, Act.look_apply]
    by_cases pending : e.lifecycle.isPending index
    · rw [if_pos pending]
      exact .inr ⟨_, [], rfl, (List.append_nil _).symm, .cycle pending⟩
    · rw [if_neg pending]
      rcases visits index e enough with hangs | ⟨result, calls, returned, recorded, visit⟩
      · exact .inl (HangsIn.bind hangs _)
      · rw [Act.bind_of_returned returned]
        cases result with
        | error failure => exact .inr ⟨_, calls, rfl, recorded, .cut pending visit⟩
        | ok _ =>
          have fewer := Finset.card_le_card visit.advances.fresh_subset
          rcases ih (setUp index e).2 (by omega) with
            ⟨stalled, hangs⟩ | ⟨result, later, returned, recordedLater, others⟩
          · exact .inl ⟨stalled, hangs.trans recorded⟩
          · refine .inr ⟨result, calls ++ later, returned, ?_, .cons pending visit others⟩
            rw [recordedLater, recorded, List.append_assoc]

theorem setUpAt_setsUp (options : Options) (depth index : Nat) :
    SetsUpBy depth (.plugin index) (setUpAt dispatch options depth index) := by
  induction depth generalizing index with
  | zero =>
    intro e enough
    omega
  | succ depth ih =>
    intro e enough
    simp only [setUpAt, Act.bind_apply, Act.look_apply]
    cases found : e.lifecycle.registry.slots[index]? with
    | none => exact .inr ⟨.ok (), [], rfl, (List.append_nil _).symm, .absent found⟩
    | some slot =>
      by_cases fresh : slot.state = .registered
      · simp only [if_pos fresh, Act.bind_apply, Act.look_apply, changeLifecycle, Act.modify_apply]
        have same : (e.lifecycle.setState index .initialized).registry.dependencies e.host index =
            e.lifecycle.registry.dependencies e.host index :=
          Registry.dependencies_congr (Registry.roster_setState _ _ _) _ _
        rw [same]
        cases resolved : e.lifecycle.registry.dependencies e.host index with
        | error failure =>
          exact .inr ⟨.error failure, [], rfl, (List.append_nil _).symm,
            .unresolved found fresh resolved⟩
        | ok needed =>
          have fewer := Lifecycle.card_fresh_mark (fresh ▸ Lifecycle.stateAt_of_slot found)
          have deep : (e.lifecycle.setState index .initialized).fresh.card < depth := by omega
          rcases setUpDependencies_setsUp ih index needed
            { e with lifecycle := e.lifecycle.setState index .initialized } deep with
            hangs | ⟨result, calls, returned, recorded, visit⟩
          · exact .inl (HangsIn.bind hangs _)
          · simp only [Act.bind_of_returned returned]
            cases result with
            | error failure =>
              exact .inr ⟨_, calls, rfl, recorded, .blocked found fresh resolved visit⟩
            | ok _ =>
              dsimp only
              rcases callSetUp_cases dispatch options slot index
                (setUpDependencies (setUpAt dispatch options depth) index needed _).2 with
                ⟨failure, h, called⟩ | ⟨h, called⟩ | ⟨stalled, last⟩
              · rw [called]
                refine .inr ⟨_, _, rfl, ?_, .failed found fresh resolved visit⟩
                rw [recorded, List.append_assoc]
              · rw [called]
                refine .inr ⟨_, _, rfl, ?_, .done found fresh resolved visit⟩
                rw [recorded, List.append_assoc]
              · refine .inl ⟨stalled, calls, slot.serial, ?_⟩
                rw [last, recorded, List.append_assoc]
      · simp only [fresh, if_false]
        exact .inr ⟨.ok (), [], rfl, (List.append_nil _).symm, .idle found fresh⟩

theorem setUp_of_unknown {name : String} {options : Options} {e : Ensemble} {failure : Failure}
    (unknown : e.lifecycle.registry.resolve name = .error failure) :
    setUp dispatch name options e = (.returned (.error failure), e) := by
  simp only [setUp, Act.bind_apply, Act.get_apply, unknown, Act.pure_apply]

/-- Setting up a plugin by name visits it. Whatever plugins depend on, it goes on for ever only in
the call of a plugin. -/
theorem setUp_of_known {name : String} {e : Ensemble} {index : Nat} (dispatch : Dispatch)
    (options : Options)
    (known : e.lifecycle.registry.resolve name = .ok index) :
    (setUp dispatch name options e).1 = .stalled ∧
        HangsIn e (setUp dispatch name options e).2 ∨
      ∃ result calls, (setUp dispatch name options e).1 = .returned result ∧
        (setUp dispatch name options e).2.calls = e.calls ++ calls ∧
        Lifecycle.SetsUp (.plugin index) e.lifecycle calls result
          (setUp dispatch name options e).2.lifecycle := by
  have begins : setUp dispatch name options e = setUpAt dispatch options e.depth index e := by
    simp only [setUp, Act.bind_apply, Act.get_apply, known]
  rw [begins]
  have enough : e.lifecycle.fresh.card < e.depth := by
    have bound := e.lifecycle.card_fresh_le
    unfold Ensemble.depth
    omega
  exact setUpAt_setsUp options e.depth index e enough

end Ensemble

end PluginHost
