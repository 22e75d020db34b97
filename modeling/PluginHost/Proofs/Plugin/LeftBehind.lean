import PluginHost.Proofs.Plugin.Discipline
import PluginHost.Proofs.Plugin.Resolution

/-!
What a failed visit leaves behind. The plugins on its path stay marked and are not listed, for good.
From then on a visit of one of them does nothing and succeeds, and a visit that comes to one of them
on its way takes it for a plugin on the path and reports a cycle.
-/

set_option autoImplicit false

namespace PluginHost

open Relation (ReflTransGen TransGen)

namespace Lifecycle

/-- Exactly the plugins that were called to set themselves up with success are listed. -/
structure Accounted (l : Lifecycle) (calls : List Call) : Prop where
  numbered : l.registry.Numbered
  issued : ∀ c ∈ calls, c.plugin < l.registry.issued
  listed : ∀ i s, l.registry.serialAt i = some s →
    (i ∈ l.initialized ↔ .left s .setUp true ∈ calls)

variable {l after : Lifecycle} {calls later : List Call} {result : Except Failure Unit}

/-- No plugin is left, and no number of those that there were will come again. -/
theorem Accounted.empty {issued : Nat} (below : ∀ c ∈ calls, c.plugin < issued) :
    Accounted { registry := { issued := issued } } calls :=
  ⟨.empty issued, below, fun _ _ none => (nomatch none)⟩

theorem Accounted.push (accounted : l.Accounted calls) (sound : l.Sound) (plugin : Plugin) :
    Accounted { l with registry := l.registry.push plugin } calls where
  numbered := accounted.numbered.push plugin
  issued := fun c member => Nat.lt_succ_of_lt (accounted.issued c member)
  listed := by
    intro i s is
    rcases Registry.serialAt_push _ _ is with old | ⟨last, fresh⟩
    · exact accounted.listed i s old
    · constructor
      · intro member
        have inside := sound.lt_length member
        omega
      · intro called
        have below : s < l.registry.issued := accounted.issued _ called
        omega

theorem Accounted.grow (accounted : l.Accounted calls) (sound : l.Sound) {r : Registry}
    (grows : l.registry.Grows r) : Accounted { l with registry := r } calls := by
  induction grows with
  | refl => exact accounted
  | tail before step ih =>
    obtain ⟨plugin, _, _, rfl⟩ := step
    exact ih.push (sound.grow before) plugin

theorem Accounted.below (accounted : l.Accounted calls)
    (present : ∀ c ∈ later, ∃ i, l.registry.serialAt i = some c.plugin) :
    ∀ c ∈ calls ++ later, c.plugin < l.registry.issued := by
  intro c member
  rcases List.mem_append.1 member with old | new
  · exact accounted.issued c old
  · obtain ⟨i, is⟩ := present c new
    exact accounted.numbered.issued i _ is

theorem Accounted.setsUp {visit : Visit} (accounted : l.Accounted calls)
    (setsUp : SetsUp visit l later result after) : after.Accounted (calls ++ later) where
  numbered := accounted.numbered.congr setsUp.advances.members setsUp.advances.issued
  issued := by
    rw [setsUp.advances.issued]
    apply accounted.below
    intro c member
    obtain ⟨_, i, is, _⟩ := setsUp.called member
    exact ⟨i, is⟩
  listed := by
    intro i s is
    rw [Registry.serialAt_congr setsUp.advances.members] at is
    rw [List.mem_append]
    constructor
    · intro member
      rcases setsUp.left is member with old | new
      · exact .inl ((accounted.listed i s is).1 old)
      · exact .inr new
    · rintro (old | new)
      · exact setsUp.advances.order.subset ((accounted.listed i s is).2 old)
      · exact setsUp.listed accounted.numbered is new

/-- Calls of other kinds do not count. -/
theorem Accounted.others (accounted : l.Accounted calls) (order : after.initialized = l.initialized)
    (members : after.registry.members = l.registry.members)
    (issued : after.registry.issued = l.registry.issued)
    (present : ∀ c ∈ later, c.hook ≠ .setUp ∧ ∃ i, l.registry.serialAt i = some c.plugin) :
    after.Accounted (calls ++ later) where
  numbered := accounted.numbered.congr members issued
  issued := by
    rw [issued]
    exact accounted.below fun c member => (present c member).2
  listed := by
    intro i s is
    rw [Registry.serialAt_congr members] at is
    rw [order, accounted.listed i s is, List.mem_append]
    have none : .left s .setUp true ∉ later := fun member => (present _ member).1 rfl
    exact (or_iff_left none).symm

theorem Starts.order {waiting : List Nat} (starts : Starts waiting l calls result after) :
    after.initialized = l.initialized := by
  induction starts with
  | nil | failed _ => rfl
  | cons _ _ ih => exact ih

theorem Starts.called {waiting : List Nat} (starts : Starts waiting l calls result after)
    {c : Call} (member : c ∈ calls) :
    c.hook = .start ∧ ∃ i, l.registry.serialAt i = some c.plugin := by
  induction starts with
  | nil => cases member
  | failed found =>
    obtain ⟨hook, plugin⟩ := mem_called member
    exact ⟨hook, _, plugin ▸ Registry.serialAt_of_slot found⟩
  | cons found _ ih =>
    rcases List.mem_append.1 member with first | later
    · obtain ⟨hook, plugin⟩ := mem_called first
      exact ⟨hook, _, plugin ▸ Registry.serialAt_of_slot found⟩
    · obtain ⟨hook, i, is⟩ := ih later
      exact ⟨hook, i, (Registry.serialAt_congr (Registry.members_setState _ _ _) i) ▸ is⟩

end Lifecycle

namespace Ensemble

variable {dispatch : Dispatch} {catalogue : Catalogue} {e : Ensemble}
  {accepts : Operation → Flow (Except Failure Unit) → Prop} {name : String} {options : Options}

theorem Operation.Does.accounted {operation : Operation} {l after : Lifecycle}
    {calls later : List Call} {result : Except Failure Unit}
    (does : operation.Does dispatch l later result after) (sound : l.Sound)
    (accounted : l.Accounted calls) : after.Accounted (calls ++ later) := by
  cases does with
  | register _ grows | registerType _ grows =>
    rw [List.append_nil]
    exact accounted.grow sound grows
  | unknown _ | elsewhere _ =>
    rw [List.append_nil]
    exact accounted
  | setUp _ setsUp => exact accounted.setsUp setsUp
  | start _ starts =>
    obtain ⟨roster, issued⟩ := roster_of_starts starts
    apply accounted.others starts.order (Registry.members_of_roster roster) issued
    intro c member
    obtain ⟨hook, present⟩ := starts.called member
    exact ⟨by rw [hook]; decide, present⟩
  | reload reloads =>
    apply accounted.others rfl rfl rfl
    intro c member
    obtain ⟨hook, i, is, _⟩ := reloads.called member
    exact ⟨by rw [hook]; decide, i, is⟩
  | stop stops =>
    exact .empty (accounted.below fun c member => (stops.called member).2)

theorem Reached.accounted (made : catalogue.Steady)
    (reached : Reached dispatch catalogue accepts e) : e.lifecycle.Accounted e.calls := by
  induction reached with
  | fresh h => exact .empty fun _ none => absurd none List.not_mem_nil
  | @step e operation before steady ended _ ih =>
    rcases operation.perform_does dispatch made steady e (before.sound made) with
      stalled | ⟨_, _, _, recorded, does⟩
    · exact absurd stalled ended
    · rw [recorded]
      exact does.accounted (before.sound made) ih

/-- A plugin is listed, and it was called to set itself up with success. -/
def GotThrough (e : Ensemble) (index : Nat) : Prop :=
  index ∈ e.lifecycle.initialized ∧
    ∃ s, e.lifecycle.registry.serialAt index = some s ∧ .left s .setUp true ∈ e.calls

theorem gotThrough_of_mem (sound : e.lifecycle.Sound) (accounted : e.lifecycle.Accounted e.calls)
    {index : Nat} (member : index ∈ e.lifecycle.initialized) : e.GotThrough index := by
  have found := List.getElem?_eq_getElem (sound.lt_length member)
  have is := Registry.serialAt_of_slot found
  exact ⟨member, _, is, (accounted.listed index _ is).1 member⟩

/-- Nothing is done for a plugin that a visit came to before. -/
theorem setUp_of_visited {index : Nat} (known : e.lifecycle.registry.resolve name = .ok index)
    {state : PluginState} (is : e.lifecycle.stateAt index = some state)
    (visited : state ≠ .registered) :
    setUp dispatch name options e = (.returned (.ok ()), e) := by
  obtain ⟨slot, found, rfl⟩ := Option.map_eq_some_iff.1 is
  simp only [setUp, Act.bind_apply, Act.get_apply, known, depth, setUpAt, Act.look_apply, found,
    visited, if_false, Act.pure_apply]

/-- If setting up succeeds, the plugin and all that it leads to got through, unless it was left
behind by a visit that failed before. Then it stays behind, and nothing is done. -/
theorem setUp_gets_through_iff (made : catalogue.Steady)
    (reached : Reached dispatch catalogue accepts e)
    (succeeded : (setUp dispatch name options e).1 = .returned (.ok ())) :
    ∃ index, e.lifecycle.registry.indexOf name = some index ∧
      ((∀ j, ReflTransGen e.lifecycle.registry.Needs index j →
        (setUp dispatch name options e).2.GotThrough j) ↔ ¬ e.lifecycle.isPending index) ∧
      (e.lifecycle.isPending index → (setUp dispatch name options e).2 = e) := by
  have sound := reached.sound made
  have accounted := reached.accounted made
  cases located : e.lifecycle.registry.indexOf name with
  | none =>
    have unknown : e.lifecycle.registry.resolve name = .error (.pluginNotFound name) := by
      simp only [Registry.resolve, located]
    rw [setUp_of_unknown unknown] at succeeded
    cases succeeded
  | some index =>
    have known : e.lifecycle.registry.resolve name = .ok index := by
      simp only [Registry.resolve, located]
    have stays : e.lifecycle.isPending index → (setUp dispatch name options e).2 = e := by
      intro pending
      have is := ((Lifecycle.isPending_iff _ _).1 pending).1
      rw [setUp_of_visited known is (by decide)]
    refine ⟨index, rfl, ⟨?_, ?_⟩, stays⟩
    · intro through pending
      have listed := (through index .refl).1
      rw [stays pending] at listed
      exact ((Lifecycle.isPending_iff _ _).1 pending).2 listed
    · intro notPending j path
      rcases setUp_of_known dispatch options known with
        ⟨stalled, _⟩ | ⟨result, calls, returned, recorded, setsUp⟩
      · rw [stalled] at succeeded
        cases succeeded
      · rw [returned, Flow.returned.injEq] at succeeded
        obtain ⟨soundAfter, lists⟩ := setsUp.sound sound
        have accountedAfter := accounted.setsUp setsUp
        rw [← recorded] at accountedAfter
        have listed : index ∈ (setUp dispatch name options e).2.lifecycle.initialized :=
          lists succeeded notPending (sound.indexed.lt located)
        have ordered := soundAfter.ordered.congr setsUp.advances.roster.symm
        exact gotThrough_of_mem soundAfter accountedAfter (ordered.mem_of_path listed path)

/-- A plugin refused to be set up, and another one can still be set up with all that it needs. -/
theorem setUp_gets_through_iff_of_three :
    let base : Plugin :=
      { type := "Base", name := "base", setUp := fun _ => .fail (.new .plugin "refused") }
    let left : Plugin := { type := "Left", name := "left" }
    let top : Plugin := { type := "Top", name := "top", requires := fun _ => [.named "left"] }
    let perform := fun (operation : Operation) (e : Ensemble) =>
      (operation.perform (Code.runWithin 1) [] e).2
    let e := perform (.setUp "base" .empty) (perform (.register top)
      (perform (.register left) (perform (.register base) {})))
    e.lifecycle.isPending 0 ∧
      ∀ j, ReflTransGen e.lifecycle.registry.Needs 2 j →
        (setUp (Code.runWithin 1) "top" .empty e).2.GotThrough j := by
  intro base left top perform e
  have reached : Reached (Code.runWithin 1) [] (fun _ _ => True) e := by
    refine .step (.setUp "base" .empty) (.step (.register top) (.step (.register left)
      (.step (.register base) (.fresh {}) (fun _ _ => rfl) nofun trivial) (fun _ _ => rfl) nofun
      trivial) (fun _ _ => rfl) nofun trivial) trivial ?_ trivial
    decide +kernel
  have succeeded : (setUp (Code.runWithin 1) "top" .empty e).1 = .returned (.ok ()) := by
    decide +kernel
  obtain ⟨index, located, through, _⟩ :=
    setUp_gets_through_iff (fun t member => absurd member List.not_mem_nil) reached succeeded
  have second : e.lifecycle.registry.indexOf "top" = some 2 := by decide +kernel
  rw [second, Option.some.injEq] at located
  subst located
  exact ⟨by decide +kernel, through.2 (by decide +kernel)⟩

/-- A plugin that refused to be set up is not called again, and setting it up succeeds. -/
theorem setUp_ok_of_refused :
    let base : Plugin :=
      { type := "Base", name := "base", setUp := fun _ => .fail (.new .plugin "refused") }
    let perform := fun (operation : Operation) (e : Ensemble) =>
      (operation.perform (Code.runWithin 1) [] e).2
    let e := perform (.setUp "base" .empty) (perform (.register base) {})
    Reached (Code.runWithin 1) [] (fun _ _ => True) e ∧
      e.lifecycle.registry.indexOf "base" = some 0 ∧
      (setUp (Code.runWithin 1) "base" .empty e).1 = .returned (.ok ()) ∧
      ¬ (setUp (Code.runWithin 1) "base" .empty e).2.GotThrough 0 := by
  intro base perform e
  have reached : Reached (Code.runWithin 1) [] (fun _ _ => True) e := by
    refine .step (.setUp "base" .empty) (.step (.register base) (.fresh {}) (fun _ _ => rfl) nofun
      trivial) trivial ?_ trivial
    decide +kernel
  have none : (setUp (Code.runWithin 1) "base" .empty e).2.lifecycle.initialized = [] := by
    decide +kernel
  refine ⟨reached, by decide +kernel, by decide +kernel, fun through => ?_⟩
  have listed := through.1
  rw [none] at listed
  cases listed

end Ensemble

namespace Registry

variable {r old new : Registry} {i j : Nat}

/-- Two plugins lead to each other. -/
def ShareCycle (r : Registry) (i j : Nat) : Prop := TransGen r.Needs i j ∧ TransGen r.Needs j i

theorem ShareCycle.of_needs (edge : r.Needs i j) (path : ReflTransGen r.Needs j i) :
    r.ShareCycle i j := by
  refine ⟨.single edge, ?_⟩
  rcases Relation.reflTransGen_iff_eq_or_transGen.1 path with same | back
  · exact .single (same ▸ edge)
  · exact back

theorem nameAt_eq (r : Registry) (index : Nat) :
    r.nameAt index = ((r.pluginAt index).map Plugin.name).getD "" := by
  simp only [nameAt, pluginAt, Option.map_map, Function.comp_def]

theorem nameAt_congr (same : new.members = old.members) (index : Nat) :
    new.nameAt index = old.nameAt index := by
  rw [nameAt_eq, nameAt_eq, pluginAt_congr same]

theorem locateAll_kind {plugin : String} {ds : List Dependency} {e : Failure}
    (failed : r.locateAll plugin ds = .error e) : e.kind = .notFound := by
  induction ds with
  | nil => cases failed
  | cons d rest ih =>
    unfold locateAll at failed
    split at failed
    · cases failed
      rfl
    · split at failed
      · cases failed
      · rename_i failedRest
        cases failed
        exact ih failedRest

/-- A dependency that is missing is not taken for a cycle. -/
theorem dependencies_kind {h : Host} {index : Nat} {e : Failure}
    (failed : r.dependencies h index = .error e) : e.kind = .notFound := by
  unfold dependencies at failed
  split at failed
  · cases failed
  · exact locateAll_kind failed

end Registry

namespace Visit

def origin : Visit → Nat
  | .plugin index => index
  | .needs owner _ => owner

/-- What is visited on behalf of a plugin is needed by it. -/
def Wanted (r : Registry) : Visit → Prop
  | .plugin _ => True
  | .needs owner indices => ∀ d ∈ indices, r.Needs owner d

end Visit

namespace Lifecycle

/-- The last call was one to a plugin that failed to set itself up. -/
def EndsRefused (calls : List Call) : Prop :=
  ∃ before : List Call, ∃ slot : Slot, calls = before ++ slot.called .setUp false

/-- A cycle is reported between a plugin that is visited and one that it needs. That one was pending
before or leads back. -/
def CycleFrom (r : Registry) (l : Lifecycle) (origin : Nat) (failure : Failure) : Prop :=
  ∃ i j, failure = .dependencyCycle (r.nameAt i) (r.nameAt j) ∧
    ReflTransGen r.Needs origin i ∧ r.Needs i j ∧ (l.isPending j ∨ ReflTransGen r.Needs j i)

variable {l after : Lifecycle} {visit : Visit} {calls : List Call} {r : Registry}

theorem EndsRefused.append {later : List Call} (refused : EndsRefused later) (calls : List Call) :
    EndsRefused (calls ++ later) := by
  obtain ⟨before, slot, rfl⟩ := refused
  exact ⟨calls ++ before, slot, (List.append_assoc _ _ _).symm⟩

/-- A visit that fails with a failure of validation was refused by a plugin or reports a cycle. -/
theorem SetsUp.reports {result : Except Failure Unit} (setsUp : SetsUp visit l calls result after)
    (steady : r.Steady) (same : l.registry.roster = r.roster) (wanted : visit.Wanted r)
    {failure : Failure} (failed : result = .error failure) (invalid : failure.kind = .validation) :
    EndsRefused calls ∨ CycleFrom r l visit.origin failure := by
  induction setsUp with
  | absent | idle | done | nil => cases failed
  | unresolved _ _ missing =>
    cases failed
    rw [Registry.dependencies_kind missing] at invalid
    cases invalid
  | @blocked l after index slot h needed calls e found fresh resolved _ ih =>
    rw [Registry.dependencies_congr same] at resolved
    have needs := (Registry.dependencies_ok steady resolved).2
    rcases ih ((Registry.roster_setState _ _ _).trans same) (fun d member => (needs d).2 member)
      failed with refused | ⟨i, j, reported, path, edge, cause⟩
    · exact .inl refused
    · refine .inr ⟨i, j, reported, path, edge, ?_⟩
      -- the mark that this visit has set is the beginning of the path to the edge
      rcases cause with pending | back
      · rcases isPending_mark pending with rfl | before
        · exact .inr path
        · exact .inl before
      · exact .inr back
  | @failed _ _ _ slot _ _ calls => exact .inl ⟨calls, slot, rfl⟩
  | @cycle l owner index _ pending =>
    cases failed
    refine .inr ⟨owner, index, ?_, .refl, wanted index List.mem_cons_self, .inl pending⟩
    have members := Registry.members_of_roster same
    rw [Registry.nameAt_congr members, Registry.nameAt_congr members]
  | cut _ _ ih =>
    rcases ih same trivial failed with refused | ⟨i, j, reported, path, edge, cause⟩
    · exact .inl refused
    · exact .inr ⟨i, j, reported, .head (wanted _ List.mem_cons_self) path, edge, cause⟩
  | cons _ first _ _ ihOthers =>
    rcases ihOthers (first.advances.roster.trans same)
      (fun d member => wanted d (List.mem_cons_of_mem _ member)) failed with
      refused | ⟨i, j, reported, path, edge, cause⟩
    · exact .inl (refused.append _)
    · exact .inr ⟨i, j, reported, path, edge, cause.imp_left (first.isPending rfl)⟩

end Lifecycle

namespace Ensemble

variable {dispatch : Dispatch} {catalogue : Catalogue} {e : Ensemble}
  {accepts : Operation → Flow (Except Failure Unit) → Prop} {name : String} {options : Options}

/-- If setting up fails with a failure of validation that is not a plugin's own, it reports a cycle
between a plugin that the name leads to and one that this one needs. The two do share a cycle, if
the second one was not left behind by a visit that failed before. -/
theorem setUp_reports_cycle (made : catalogue.Steady)
    (reached : Reached dispatch catalogue accepts e) {failure : Failure}
    (failed : (setUp dispatch name options e).1 = .returned (.error failure))
    (invalid : failure.kind = .validation) :
    ∃ calls, (setUp dispatch name options e).2.calls = e.calls ++ calls ∧
      (Lifecycle.EndsRefused calls ∨ ∃ i j,
        failure = .dependencyCycle (e.lifecycle.registry.nameAt i)
          (e.lifecycle.registry.nameAt j) ∧
        e.lifecycle.registry.LeadsTo name i ∧ e.lifecycle.registry.Needs i j ∧
        (¬ e.lifecycle.isPending j → e.lifecycle.registry.ShareCycle i j)) := by
  cases located : e.lifecycle.registry.indexOf name with
  | none =>
    have unknown : e.lifecycle.registry.resolve name = .error (.pluginNotFound name) := by
      simp only [Registry.resolve, located]
    rw [setUp_of_unknown unknown, Flow.returned.injEq, Except.error.injEq] at failed
    rw [← failed] at invalid
    cases invalid
  | some index =>
    have known : e.lifecycle.registry.resolve name = .ok index := by
      simp only [Registry.resolve, located]
    rcases setUp_of_known dispatch options known with
      ⟨stalled, _⟩ | ⟨result, calls, returned, recorded, setsUp⟩
    · rw [stalled] at failed
      cases failed
    · rw [returned, Flow.returned.injEq] at failed
      refine ⟨calls, recorded, ?_⟩
      rcases setsUp.reports (reached.sound made).steady rfl trivial failed invalid with
        refused | ⟨i, j, reported, path, edge, cause⟩
      · exact .inl refused
      · refine .inr ⟨i, j, reported, ⟨index, located, path⟩, edge, fun notPending => ?_⟩
        exact .of_needs edge (cause.resolve_left notPending)

/-- Two plugins that need each other. -/
theorem setUp_reports_cycle_of_two :
    let plugin := fun (name other : String) =>
      ({ type := name, name := name, requires := fun _ => [.named other] } : Plugin)
    let perform := fun (operation : Operation) (e : Ensemble) =>
      (operation.perform (Code.runWithin 1) [] e).2
    let e := perform (.register (plugin "right" "left"))
      (perform (.register (plugin "left" "right")) {})
    (setUp (Code.runWithin 1) "left" .empty e).1 =
        .returned (.error (.dependencyCycle "right" "left")) ∧
      ∃ i j, e.lifecycle.registry.ShareCycle i j := by
  intro plugin perform e
  have reached : Reached (Code.runWithin 1) [] (fun _ _ => True) e :=
    .step (.register _) (.step (.register _) (.fresh {}) (fun _ _ => rfl) nofun trivial)
      (fun _ _ => rfl) nofun trivial
  have failed : (setUp (Code.runWithin 1) "left" .empty e).1 =
      .returned (.error (.dependencyCycle "right" "left")) := by decide +kernel
  refine ⟨failed, ?_⟩
  obtain ⟨calls, recorded, cause⟩ := setUp_reports_cycle
    (fun t member => absurd member List.not_mem_nil) reached failed rfl
  have silent : (setUp (Code.runWithin 1) "left" .empty e).2.calls = [] := by decide +kernel
  rw [silent] at recorded
  obtain ⟨_, rfl⟩ := List.nil_eq_append_iff.1 recorded
  have unvisited : ∀ j, ¬ e.lifecycle.isPending j := by
    intro j pending
    obtain ⟨slot, found, state⟩ :=
      Option.map_eq_some_iff.1 ((Lifecycle.isPending_iff _ _).1 pending).1
    have registered : ∀ slot ∈ e.lifecycle.registry.slots, slot.state = .registered := by
      decide +kernel
    rw [registered slot (List.mem_of_getElem? found)] at state
    cases state
  rcases cause with ⟨before, slot, split⟩ | ⟨i, j, _, _, _, cycle⟩
  · exact absurd split.symm (List.append_ne_nil_of_right_ne_nil _ (List.cons_ne_nil _ _))
  · exact ⟨i, j, cycle (unvisited j)⟩

/-- A plugin that needs nothing refused to be set up, and one that needs it is told of a cycle. -/
theorem setUp_cycle_of_refused :
    let base : Plugin :=
      { type := "Base", name := "base", setUp := fun _ => .fail (.new .plugin "refused") }
    let top : Plugin := { type := "Top", name := "top", requires := fun _ => [.named "base"] }
    let perform := fun (operation : Operation) (e : Ensemble) =>
      (operation.perform (Code.runWithin 1) [] e).2
    let e := perform (.setUp "base" .empty) (perform (.register top)
      (perform (.register base) {}))
    Reached (Code.runWithin 1) [] (fun _ _ => True) e ∧
      (setUp (Code.runWithin 1) "top" .empty e).1 =
        .returned (.error (.dependencyCycle "top" "base")) ∧
      ∀ i j, e.lifecycle.registry.nameAt j = "base" → ¬ e.lifecycle.registry.ShareCycle i j := by
  intro base top perform e
  have reached : Reached (Code.runWithin 1) [] (fun _ _ => True) e := by
    refine .step (.setUp "base" .empty) (.step (.register top) (.step (.register base) (.fresh {})
      (fun _ _ => rfl) nofun trivial) (fun _ _ => rfl) nofun trivial) trivial ?_ trivial
    decide +kernel
  refine ⟨reached, by decide +kernel, ?_⟩
  rintro i j named ⟨_, around⟩
  obtain ⟨d, ⟨plugin, h, present, asked, needed, _⟩, _⟩ := TransGen.head'_iff.1 around
  rw [Registry.nameAt_eq, present] at named
  have sound := reached.sound fun t member => absurd member List.not_mem_nil
  rw [sound.steady j plugin present h {}] at needed
  obtain ⟨slot, found, rfl⟩ := Option.map_eq_some_iff.1 present
  have nothing : ∀ slot ∈ e.lifecycle.registry.slots, slot.plugin.name = "base" →
      slot.plugin.requires {} = [] := by decide +kernel
  rw [nothing slot (List.mem_of_getElem? found) named] at needed
  cases needed

end Ensemble

end PluginHost
