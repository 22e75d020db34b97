import PluginHost.Proofs.Plugin.Answers

set_option autoImplicit false

namespace PluginHost

/-- How plugins answer that are called in turn until one fails: all of them well, whatever comes of
the whole, or all but the last one. -/
inductive Ends : List Reply → Except Failure Unit → Prop
  | fine {replies : List Reply} (fine : ∀ r ∈ replies, r.Fine) (result : Except Failure Unit) :
      Ends replies result
  | failed {replies : List Reply} {last : Reply} {e : Failure} (fine : ∀ r ∈ replies, r.Fine)
      (failed : last.answer = .error e) : Ends (replies ++ [last]) (.error e)

namespace Ends

variable {replies later : List Reply} {result : Except Failure Unit}

theorem all_fine (ends : Ends replies (.ok ())) : ∀ r ∈ replies, r.Fine := by
  cases ends with
  | fine fine _ => exact fine

theorem single (number : Nat) (plugin : Plugin) (answer : Except Failure Json) :
    Ends [⟨number, plugin, answer⟩] (answer.map fun _ => ()) := by
  cases answer with
  | error failure =>
    have alone : Ends ([] ++ [⟨number, plugin, .error failure⟩]) (.error failure) :=
      .failed (by simp) rfl
    exact alone
  | ok value =>
    refine .fine (fun r member => ?_) _
    rw [List.mem_singleton.1 member]
    exact ⟨value, rfl⟩

/-- Nobody is called after one that failed, and its failure is what comes of the whole. -/
theorem of_failed (ends : Ends replies result) {before : List Reply} {r : Reply} {e : Failure}
    (split : replies = before ++ r :: later) (failed : r.answer = .error e) :
    later = [] ∧ result = .error e := by
  have notFine : ¬ r.Fine := by
    rintro ⟨value, fine⟩
    rw [failed] at fine
    cases fine
  cases ends with
  | fine fine _ =>
    have called : r ∈ replies := by
      rw [split]
      exact List.mem_append_cons_self
    exact absurd (fine r called) notFine
  | @failed others last own fine lastFailed =>
    obtain rfl | ⟨init, x, rfl⟩ := List.eq_nil_or_concat later
    · obtain ⟨_, same⟩ := List.append_inj' split rfl
      cases same
      rw [lastFailed, Except.error.injEq] at failed
      exact ⟨rfl, by rw [failed]⟩
    · have whole : others ++ [last] = (before ++ r :: init) ++ [x] := by
        rw [split, List.concat_eq_append, List.append_assoc, List.cons_append]
      obtain ⟨same, _⟩ := List.append_inj' whole rfl
      have called : r ∈ others := by
        rw [same]
        exact List.mem_append_cons_self
      exact absurd (fine r called) notFine

theorem append (fine : ∀ r ∈ replies, r.Fine) (ends : Ends later result) :
    Ends (replies ++ later) result := by
  cases ends with
  | fine others result =>
    refine .fine (fun r member => ?_) result
    obtain old | new := List.mem_append.1 member
    · exact fine r old
    · exact others r new
  | @failed others last e othersFine failed =>
    rw [← List.append_assoc]
    refine .failed (fun r member => ?_) failed
    obtain old | new := List.mem_append.1 member
    · exact fine r old
    · exact othersFine r new

end Ends

namespace Ensemble

variable {dispatch : Dispatch} {e middle after : Ensemble} {replies later : List Reply}

/-- Plugins were called to start. They run, in that order, whatever they answered. -/
structure Launched (dispatch : Dispatch) (e : Ensemble) (replies : List Reply) (after : Ensemble) :
    Prop where
  answers : Answers dispatch .starting e.host replies after.host
  calls : after.calls = e.calls ++ replies.flatMap (Reply.calls .start)
  members : after.lifecycle.registry.members = e.lifecycle.registry.members
  issued : after.lifecycle.registry.issued = e.lifecycle.registry.issued
  running : ∃ started, after.lifecycle.running = e.lifecycle.running ++ started ∧
    List.Forall₂ (Reply.At e.lifecycle.registry) started replies
  waiting : after.lifecycle.inState .initialized ⊆ e.lifecycle.inState .initialized

namespace Launched

theorem refl (e : Ensemble) : Launched dispatch e [] e where
  answers := .nil _
  calls := (List.append_nil _).symm
  members := rfl
  issued := rfl
  running := ⟨[], (List.append_nil _).symm, .nil⟩
  waiting := Finset.Subset.refl _

theorem trans (first : Launched dispatch e replies middle)
    (second : Launched dispatch middle later after) :
    Launched dispatch e (replies ++ later) after where
  answers := first.answers.append second.answers
  calls := by rw [second.calls, first.calls, List.flatMap_append, List.append_assoc]
  members := second.members.trans first.members
  issued := second.issued.trans first.issued
  running := by
    obtain ⟨started, runs, at_⟩ := first.running
    obtain ⟨others, runsLater, atLater⟩ := second.running
    refine ⟨started ++ others, ?_, ?_⟩
    · rw [runsLater, runs, List.append_assoc]
    · apply List.rel_append at_
      exact atLater.imp fun _ _ is => by rwa [Reply.At, first.members] at is
  waiting := second.waiting.trans first.waiting

theorem mark (dispatch : Dispatch) (e : Ensemble) (index : Nat) :
    Launched dispatch e [] { e with lifecycle := e.lifecycle.setState index .started } where
  answers := .nil _
  calls := (List.append_nil _).symm
  members := Registry.members_setState _ _ _
  issued := rfl
  running := ⟨[], (List.append_nil _).symm, .nil⟩
  waiting := Lifecycle.inState_setState_subset _ _ (by decide)

theorem called (launched : Launched dispatch e replies after) :
    Called dispatch .starting e replies after where
  answers := launched.answers
  calls := launched.calls
  members := launched.members
  enrolled := by
    obtain ⟨_, _, called⟩ := launched.running
    exact mem_members_of_at called

end Launched

/-- A step that calls plugins to start until one fails, if it may go deep enough. It goes on for
ever only if the call of a plugin does. -/
def Launches (dispatch : Dispatch) (depth : Nat) (act : Act Ensemble (Except Failure Unit)) :
    Prop :=
  ∀ e, (e.lifecycle.inState .initialized).card < depth →
    ((act e).1 = .stalled ∧ ∃ replies, Endless dispatch .starting e replies (act e).2) ∨
    ∃ replies result, (act e).1 = .returned result ∧ Launched dispatch e replies (act e).2 ∧
      Ends replies result

theorem forEach_launches {depth : Nat} {act : Nat → Act Ensemble (Except Failure Unit)}
    (launches : ∀ index, Launches dispatch depth (act index)) (indices : List Nat) :
    Launches dispatch depth (forEach act indices) := by
  induction indices with
  | nil =>
    intro e _
    exact .inr ⟨[], .ok (), rfl, .refl e, .fine (by simp) _⟩
  | cons index rest ih =>
    intro e enough
    rw [forEach]
    rcases launches index e enough with
      ⟨stalled, replies, endless⟩ | ⟨replies, result, returned, launched, ends⟩
    · obtain ⟨stalled, kept⟩ := Act.bind_stalled stalled _
      exact .inl ⟨stalled, replies, kept ▸ endless⟩
    · rw [Act.bind_of_returned returned]
      cases result with
      | error failure => exact .inr ⟨replies, _, rfl, launched, ends⟩
      | ok _ =>
        have fewer := Finset.card_le_card launched.waiting
        rcases ih (act index e).2 (by omega) with
          ⟨stalled, later, endless⟩ | ⟨later, result, returned, others, endsLater⟩
        · exact .inl ⟨stalled, _, launched.called.endless endless⟩
        · exact .inr ⟨replies ++ later, result, returned, launched.trans others,
            endsLater.append ends.all_fine⟩

/-- The plugin that is called runs from then on. -/
theorem callStart_launches (dispatch : Dispatch) {slot : Slot} {index : Nat} (e : Ensemble)
    (own : e.lifecycle.registry.members[index]? = some (slot.serial, slot.plugin)) :
    ((callStart dispatch slot index e).1 = .stalled ∧
      Endless dispatch .starting e [] (callStart dispatch slot index e).2) ∨
    ∃ replies result, (callStart dispatch slot index e).1 = .returned result ∧
      Launched dispatch e replies (callStart dispatch slot index e).2 ∧ Ends replies result := by
  rw [callStart_eq, Act.bind_of_returned (a := ()) rfl]
  generalize joined : (changeLifecycle _ e).2 = e'
  have same : e' = { e with
      lifecycle := { e.lifecycle with running := e.lifecycle.running ++ [index] } } := joined.symm
  subst same
  rcases announced_cases .starting dispatch slot _ with
    ⟨stalled, recorded⟩ | ⟨answer, h, answered, ended⟩
  · have running : Called dispatch .starting e [] _ := (Called.refl e).relabel
      (l := { e.lifecycle with running := e.lifecycle.running ++ [index] }) rfl
    exact .inl ⟨stalled, _, slot.serial, slot.plugin, running, List.mem_of_getElem? own,
      announced_stalled stalled, recorded⟩
  · rw [ended]
    refine .inr ⟨[⟨slot.serial, slot.plugin, answer⟩], _, rfl, ?_, ?_⟩
    · constructor
      · exact .cons answered (.nil _)
      · rfl
      · rfl
      · rfl
      · exact ⟨[index], rfl, .cons own .nil⟩
      · exact Finset.Subset.refl _
    · exact .single _ _ _

theorem startAt_launches (depth index : Nat) :
    Launches dispatch depth (startAt dispatch depth index) := by
  induction depth generalizing index with
  | zero =>
    intro e enough
    omega
  | succ depth ih =>
    intro e enough
    simp only [startAt, Act.bind_apply, Act.look_apply]
    cases found : e.lifecycle.registry.slots[index]? with
    | none => exact .inr ⟨[], .ok (), rfl, .refl e, .fine (by simp) _⟩
    | some slot =>
      by_cases waits : slot.state = .initialized
      · simp only [if_pos waits, Act.bind_apply, Act.look_apply, changeLifecycle, Act.modify_apply]
        have mark := Launched.mark dispatch e index
        -- it is marked before what it needs is visited, so one plugin fewer waits below
        have fewer : ((e.lifecycle.setState index .started).inState .initialized).card <
            (e.lifecycle.inState .initialized).card :=
          Lifecycle.card_inState_setState_lt (waits ▸ Lifecycle.stateAt_of_slot found) (by decide)
        have deep : ((e.lifecycle.setState index .started).inState .initialized).card < depth := by
          omega
        cases (e.lifecycle.setState index .started).registry.dependencies e.host index with
        | error failure => exact .inr ⟨[], .error failure, rfl, mark, .fine (by simp) _⟩
        | ok needed =>
          dsimp only
          rcases forEach_launches ih needed
            { e with lifecycle := e.lifecycle.setState index .started } deep with
            ⟨stalled, replies, endless⟩ | ⟨replies, result, returned, launched, ends⟩
          · obtain ⟨stalled, kept⟩ := Act.bind_stalled stalled _
            exact .inl ⟨stalled, _, kept ▸ mark.called.endless endless⟩
          · have begun : Launched dispatch e replies _ := mark.trans launched
            simp only [Act.bind_of_returned returned]
            cases result with
            | error failure => exact .inr ⟨replies, _, rfl, begun, ends⟩
            | ok _ =>
              have own : e.lifecycle.registry.members[index]? = some (slot.serial, slot.plugin) := by
                simp [Registry.members, found]
              rw [← begun.members] at own
              rcases callStart_launches dispatch _ own with
                ⟨stalled, endless⟩ | ⟨later, result, returned, others, endsLater⟩
              · exact .inl ⟨stalled, _, begun.called.endless endless⟩
              · exact .inr ⟨_, result, returned, begun.trans others,
                  endsLater.append ends.all_fine⟩
      · simp only [waits, if_false]
        exact .inr ⟨[], .ok (), rfl, .refl e, .fine (by simp) _⟩

/-- Starting calls plugins in turn until one fails, and goes on for ever only in the call of one. -/
theorem start_launches (dispatch : Dispatch) (e : Ensemble) :
    ((start dispatch e).1 = .stalled ∧
      ∃ replies, Endless dispatch .starting e replies (start dispatch e).2) ∨
    ∃ replies result, (start dispatch e).1 = .returned result ∧
      Launched dispatch e replies (start dispatch e).2 ∧ Ends replies result := by
  have enough : (e.lifecycle.inState .initialized).card < e.depth := by
    have bound := e.lifecycle.card_inState_le .initialized
    unfold depth
    omega
  exact forEach_launches (startAt_launches e.depth) e.lifecycle.initialized e enough

end Ensemble

end PluginHost
