import PluginHost.Proofs.Plugin.Histories

/-!
When setting up succeeds. The code takes a plugin that is marked but not listed for one that stands
on the path to itself. That is right as long as no visit has failed: then the plugins that are
marked but not listed are exactly those on the path.
-/

set_option autoImplicit false

namespace PluginHost

open Relation (ReflTransGen TransGen)

namespace Registry

/-- All that the plugin at an index leads to is registered, and nothing there leads back to
itself. -/
structure Grounded (r : Registry) (index : Nat) : Prop where
  resolved : ∀ j, ReflTransGen r.Needs index j → r.Resolved j
  acyclic : ∀ j, ReflTransGen r.Needs index j → ¬ TransGen r.Needs j j

variable {r : Registry} {order : List Nat} {index : Nat}

theorem Grounded.of_needs (grounded : r.Grounded index) {d : Nat} (edge : r.Needs index d) :
    r.Grounded d :=
  ⟨fun j path => grounded.resolved j (.head edge path),
    fun j path => grounded.acyclic j (.head edge path)⟩

/-- What a listed plugin leads to is listed. -/
theorem Ordered.mem_of_path (ordered : r.Ordered order) (member : index ∈ order) {j : Nat}
    (path : ReflTransGen r.Needs index j) : j ∈ order := by
  induction path with
  | refl => exact member
  | tail _ edge ih => exact ordered.mem_of_needs ih edge

theorem Ordered.acyclic (ordered : r.Ordered order) (member : index ∈ order) :
    ¬ TransGen r.Needs index index := by
  induction ordered with
  | nil => cases member
  | @snoc before last ordered fresh _ earlier ih =>
    rcases List.mem_append.1 member with old | new
    · exact ih old
    · rw [List.mem_singleton] at new
      subst new
      intro cycle
      obtain ⟨d, edge, path⟩ := TransGen.head'_iff.1 cycle
      exact fresh (ordered.mem_of_path (earlier d edge) path)

theorem Ordered.grounded (ordered : r.Ordered order) (member : index ∈ order) :
    r.Grounded index :=
  ⟨fun _ path => ordered.resolved (ordered.mem_of_path member path),
    fun _ path => ordered.acyclic (ordered.mem_of_path member path)⟩

theorem grounded_congr {old new : Registry} (same : new.roster = old.roster) :
    new.Grounded index ↔ old.Grounded index := by
  have edges := needs_eq same
  constructor
  · rintro ⟨resolved, acyclic⟩
    rw [edges] at resolved acyclic
    exact ⟨fun j path => (resolved_congr same).1 (resolved j path), acyclic⟩
  · rintro ⟨resolved, acyclic⟩
    rw [← edges] at resolved acyclic
    exact ⟨fun j path => (resolved_congr same).2 (resolved j path), acyclic⟩

/-- A name of a plugin that has nothing in its way. -/
def Admits (r : Registry) (name : String) : Prop :=
  ∃ index, r.indexOf name = some index ∧ r.Grounded index

/-- The plugins that a name leads to. -/
def LeadsTo (r : Registry) (name : String) (j : Nat) : Prop :=
  ∃ index, r.indexOf name = some index ∧ ReflTransGen r.Needs index j

theorem admits_congr {old new : Registry} (same : new.roster = old.roster) {name : String} :
    new.Admits name ↔ old.Admits name := by
  simp only [Admits, indexOf, byName_of_roster same, grounded_congr same]

theorem leadsTo_congr {old new : Registry} (same : new.roster = old.roster) {name : String}
    {j : Nat} : new.LeadsTo name j ↔ old.LeadsTo name j := by
  simp only [LeadsTo, indexOf, byName_of_roster same, needs_eq same]

end Registry

namespace Visit

/-- The plugins that a visit leads to. -/
def Reaches (r : Registry) : Visit → Nat → Prop
  | .plugin index, j => ReflTransGen r.Needs index j
  | .needs _ indices, j => ∃ d ∈ indices, ReflTransGen r.Needs d j

/-- Nothing stands in the way of a visit. -/
def Grounded (r : Registry) : Visit → Prop
  | .plugin index => r.Grounded index
  | .needs owner indices => r.Grounded owner ∧ ∀ d ∈ indices, r.Needs owner d

/-- The plugins that are pending lead to what is visited. -/
def OnPath (r : Registry) (l : Lifecycle) : Visit → Prop
  | .plugin index => ∀ j, l.isPending j → TransGen r.Needs j index
  | .needs owner _ => ∀ j, l.isPending j → ReflTransGen r.Needs j owner

/-- What the dependencies of a plugin lead to, the plugin leads to. -/
theorem Reaches.of_needs {r s : Registry} (steady : r.Steady) (same : s.roster = r.roster)
    {h : Host} {index : Nat} {needed : List Nat} (found : s.dependencies h index = .ok needed)
    {j : Nat} (reached : Reaches r (.needs index needed) j) : Reaches r (.plugin index) j := by
  rw [Registry.dependencies_congr same] at found
  obtain ⟨d, member, path⟩ := reached
  have edge : r.Needs index d := ((Registry.dependencies_ok steady found).2 d).2 member
  exact .head edge path

end Visit

namespace Lifecycle

variable {l after : Lifecycle} {index : Nat} {visit : Visit}
  {calls : List Call} {result : Except Failure Unit} {r : Registry}

theorem isPending_iff (l : Lifecycle) (i : Nat) :
    l.isPending i ↔ l.stateAt i = some .initialized ∧ i ∉ l.initialized := by
  simp [isPending]

/-- Marking a plugin makes it pending, and no other one. -/
theorem isPending_mark {j : Nat} (pending : (l.setState index .initialized).isPending j) :
    j = index ∨ l.isPending j := by
  rw [isPending_iff, stateAt_setState] at pending
  obtain ⟨is, unlisted⟩ := pending
  by_cases same : index = j
  · exact .inl same.symm
  · rw [if_neg same] at is
    exact .inr ((isPending_iff _ _).2 ⟨is, unlisted⟩)

theorem isPending_list {j : Nat} (pending : (l.list index).isPending j) :
    j ≠ index ∧ l.isPending j := by
  rw [isPending_iff] at pending
  obtain ⟨is, unlisted⟩ := pending
  have unlisted : j ∉ l.initialized ++ [index] := unlisted
  rw [List.mem_append, List.mem_singleton, not_or] at unlisted
  exact ⟨unlisted.2, (isPending_iff _ _).2 ⟨is, unlisted.1⟩⟩

/-- A visit that succeeds leaves no plugin pending that was not so before. -/
theorem SetsUp.isPending (setsUp : SetsUp visit l calls result after)
    (succeeded : result = .ok ()) {j : Nat} (pending : after.isPending j) : l.isPending j := by
  induction setsUp with
  | absent | idle | nil | cycle => exact pending
  | unresolved | blocked | failed | cut => cases succeeded
  | done _ _ _ _ ih =>
    obtain ⟨other, before⟩ := isPending_list pending
    rcases isPending_mark (ih rfl before) with same | before
    · exact absurd same other
    · exact before
  | cons _ _ _ ihFirst ihOthers => exact ihFirst rfl (ihOthers succeeded pending)

/-- A visit lists nothing that it does not lead to. -/
theorem SetsUp.reaches (setsUp : SetsUp visit l calls result after)
    (steady : r.Steady) (same : l.registry.roster = r.roster) {j : Nat}
    (listed : j ∈ after.initialized) : j ∈ l.initialized ∨ visit.Reaches r j := by
  induction setsUp with
  | absent | idle | unresolved | nil | cycle => exact .inl listed
  | blocked _ _ resolved _ ih | failed _ _ resolved _ ih =>
    rcases ih ((Registry.roster_setState _ _ _).trans same) listed with old | reached
    · exact .inl old
    · exact .inr (reached.of_needs steady same resolved)
  | done _ _ resolved _ ih =>
    rcases List.mem_append.1 listed with listed | new
    · rcases ih ((Registry.roster_setState _ _ _).trans same) listed with old | reached
      · exact .inl old
      · exact .inr (reached.of_needs steady same resolved)
    · rw [List.mem_singleton] at new
      exact .inr (new ▸ .refl)
  | cut _ _ ih =>
    rcases ih same listed with old | path
    · exact .inl old
    · exact .inr ⟨_, List.mem_cons_self, path⟩
  | cons _ first _ ihFirst ihOthers =>
    rcases ihOthers (first.advances.roster.trans same) listed with old | ⟨d, member, path⟩
    · rcases ihFirst same old with older | path
      · exact .inl older
      · exact .inr ⟨_, List.mem_cons_self, path⟩
    · exact .inr ⟨d, List.mem_cons_of_mem _ member, path⟩

/-- If nothing stands in the way and plugins succeed in setting themselves up, so does a visit: a
plugin that is pending stands on the path, and nothing on the path comes back to itself. -/
theorem SetsUp.succeeds (setsUp : SetsUp visit l calls result after)
    (able : ∀ plugin, Call.left plugin .setUp false ∉ calls)
    (steady : r.Steady) (same : l.registry.roster = r.roster) (grounded : visit.Grounded r)
    (path : visit.OnPath r l) : result = .ok () := by
  induction setsUp with
  | absent | idle | done | nil => rfl
  | unresolved found fresh unresolved =>
    rw [Registry.dependencies_congr same] at unresolved
    exact absurd (grounded.resolved _ .refl) (Registry.dependencies_error unresolved)
  | blocked found fresh resolved _ ih =>
    rw [Registry.dependencies_congr same] at resolved
    have needed := (Registry.dependencies_ok steady resolved).2
    apply ih able ((Registry.roster_setState _ _ _).trans same)
      ⟨grounded, fun d member => (needed d).2 member⟩
    intro j pending
    rcases isPending_mark pending with rfl | before
    · exact .refl
    · exact (path j before).to_reflTransGen
  | @failed _ _ _ slot =>
    exfalso
    apply able slot.serial
    apply List.mem_append_right
    exact List.mem_cons_of_mem _ (List.mem_singleton_self _)
  | cycle pending =>
    have edge := grounded.2 _ List.mem_cons_self
    exact absurd (TransGen.tail' (path _ pending) edge)
      (grounded.1.acyclic _ (.single edge))
  | cut _ _ ih =>
    have edge := grounded.2 _ List.mem_cons_self
    exact ih able same (grounded.1.of_needs edge) fun j pending => .tail' (path j pending) edge
  | cons _ first _ _ ihOthers =>
    apply ihOthers (fun plugin member => able plugin (List.mem_append_right _ member))
      (first.advances.roster.trans same)
      ⟨grounded.1, fun d member => grounded.2 d (List.mem_cons_of_mem _ member)⟩
    intro j pending
    exact path j (first.isPending rfl pending)

/-- No plugin is marked but not listed. -/
def Settled (l : Lifecycle) : Prop := ∀ i, ¬ l.isPending i

/-- A visit of one plugin succeeds only if nothing stands in its way. -/
theorem SetsUp.grounded (setsUp : SetsUp (.plugin index) l calls (.ok ()) after)
    (sound : l.Sound) (settled : l.Settled) (inside : index < l.registry.slots.length) :
    l.registry.Grounded index := by
  obtain ⟨soundAfter, lists⟩ := setsUp.sound sound
  have listed : index ∈ after.initialized := lists rfl (settled index) inside
  exact (Registry.grounded_congr setsUp.advances.roster).1 (soundAfter.ordered.grounded listed)

/-- A visit that succeeds lists what it leads to and was not listed yet. -/
theorem SetsUp.closure (setsUp : SetsUp (.plugin index) l calls (.ok ()) after)
    (sound : l.Sound) (settled : l.Settled) (inside : index < l.registry.slots.length) :
    ∃ joined, after.initialized = l.initialized ++ joined ∧ joined.Nodup ∧
      ∀ j, j ∈ joined ↔ ReflTransGen l.registry.Needs index j ∧ j ∉ l.initialized := by
  obtain ⟨soundAfter, lists⟩ := setsUp.sound sound
  obtain ⟨joined, split⟩ := setsUp.advances.order
  have nodup := soundAfter.ordered.nodup
  rw [← split, List.nodup_append] at nodup
  refine ⟨joined, split.symm, nodup.2.1, ?_⟩
  intro j
  constructor
  · intro member
    have unlisted : j ∉ l.initialized := fun old => nodup.2.2 j old j member rfl
    have listed : j ∈ after.initialized := by
      rw [← split]
      exact List.mem_append_right _ member
    exact ⟨(setsUp.reaches sound.steady rfl listed).resolve_left unlisted, unlisted⟩
  · rintro ⟨path, unlisted⟩
    have ordered := soundAfter.ordered.congr setsUp.advances.roster.symm
    have listed := ordered.mem_of_path (lists rfl (settled index) inside) path
    rw [← split] at listed
    exact (List.mem_append.1 listed).resolve_left unlisted

theorem Settled.empty (issued : Nat) : Settled { registry := { issued := issued } } := by
  intro i pending
  obtain ⟨is, _⟩ := (isPending_iff _ _).1 pending
  cases is

theorem Settled.push (settled : l.Settled) (plugin : Plugin) :
    Settled { l with registry := l.registry.push plugin } := by
  intro i pending
  obtain ⟨is, unlisted⟩ := (isPending_iff _ _).1 pending
  obtain ⟨slot, found, state⟩ := Option.map_eq_some_iff.1 is
  rcases Registry.slots_push_of_some found with old | ⟨_, rfl⟩
  · have before : l.stateAt i = some .initialized := by rw [stateAt_of_slot old, state]
    exact settled i ((isPending_iff _ _).2 ⟨before, unlisted⟩)
  · cases state

theorem Settled.grow (settled : l.Settled) {r : Registry} (grows : l.registry.Grows r) :
    Settled { l with registry := r } := by
  induction grows with
  | refl => exact settled
  | tail _ step ih =>
    obtain ⟨plugin, _, _, rfl⟩ := step
    exact ih.push plugin

theorem Settled.launch (settled : l.Settled) (index : Nat) : (l.launch index).Settled := by
  intro i pending
  obtain ⟨is, unlisted⟩ := (isPending_iff _ _).1 pending
  rw [stateAt_launch] at is
  split at is
  · obtain ⟨_, _, same⟩ := Option.map_eq_some_iff.1 is
    cases same
  · exact settled i ((isPending_iff _ _).2 ⟨is, unlisted⟩)

theorem Starts.settled {waiting : List Nat} (starts : Starts waiting l calls result after)
    (settled : l.Settled) : after.Settled := by
  induction starts with
  | nil => exact settled
  | failed _ => exact settled.launch _
  | cons _ _ ih => exact ih (settled.launch _)

end Lifecycle

namespace Ensemble

variable {dispatch : Dispatch} {catalogue : Catalogue} {e : Ensemble}

/-- Setting up succeeds. -/
def Operation.Untroubled : Operation → Flow (Except Failure Unit) → Prop
  | .setUp _ _, flow => flow = .returned (.ok ())
  | _, _ => True

theorem Operation.Does.settled {operation : Operation} {l after : Lifecycle} {calls : List Call}
    {result : Except Failure Unit} (does : operation.Does dispatch l calls result after)
    (accepted : operation.Untroubled (.returned result)) (settled : l.Settled) :
    after.Settled := by
  cases does with
  | register plugin grows => exact settled.grow grows
  | registerType type grows => exact settled.grow grows
  | unknown _ => exact settled
  | setUp _ setsUp =>
    have succeeded : result = .ok () := Flow.returned.inj accepted
    exact fun j pending => settled j (setsUp.isPending succeeded pending)
  | start _ starts => exact starts.settled settled
  | reload _ => exact settled
  | stop _ => exact .empty _
  | elsewhere _ => exact settled

theorem Reached.settled (made : catalogue.Steady)
    (reached : Reached dispatch catalogue Operation.Untroubled e) : e.lifecycle.Settled := by
  induction reached with
  | fresh h => exact .empty 0
  | @step e operation before steady ended accepted ih =>
    rcases operation.perform_does dispatch made steady e (before.sound made) with
      stalled | ⟨_, _, returned, _, does⟩
    · exact absurd stalled ended
    · exact does.settled (returned ▸ accepted) ih

/-- What there is when every visit so far has succeeded. -/
structure Calm (e : Ensemble) : Prop where
  sound : e.lifecycle.Sound
  settled : e.lifecycle.Settled

/-- What setting up by name comes to, if no call of a plugin goes on for ever. -/
theorem Calm.setUp (calm : e.Calm) (dispatch : Dispatch) (name : String) (options : Options) :
    (setUp dispatch name options e).1 = .stalled ∧
        HangsIn e (setUp dispatch name options e).2 ∨
      ∃ result calls, (setUp dispatch name options e).1 = .returned result ∧
        (setUp dispatch name options e).2.calls = e.calls ++ calls ∧
        (setUp dispatch name options e).2.lifecycle.registry.roster =
          e.lifecycle.registry.roster ∧
        (e.lifecycle.registry.Admits name → (∀ plugin, Call.left plugin .setUp false ∉ calls) →
          result = .ok ()) ∧
        (result = .ok () → e.lifecycle.registry.Admits name ∧
          Calm (setUp dispatch name options e).2 ∧
          ∃ joined, (setUp dispatch name options e).2.lifecycle.initialized =
              e.lifecycle.initialized ++ joined ∧ joined.Nodup ∧
            ∀ j, j ∈ joined ↔
              e.lifecycle.registry.LeadsTo name j ∧ j ∉ e.lifecycle.initialized) := by
  cases located : e.lifecycle.registry.indexOf name with
  | none =>
    have unknown : e.lifecycle.registry.resolve name = .error (.pluginNotFound name) := by
      simp only [Registry.resolve, located]
    rw [setUp_of_unknown unknown]
    refine .inr ⟨_, [], rfl, (List.append_nil _).symm, rfl, ?_, nofun⟩
    rintro ⟨index, found, _⟩
    rw [located] at found
    cases found
  | some index =>
    have known : e.lifecycle.registry.resolve name = .ok index := by
      simp only [Registry.resolve, located]
    have inside : index < e.lifecycle.registry.slots.length :=
      calm.sound.indexed.lt located
    rcases setUp_of_known dispatch options known with
      hangs | ⟨result, calls, returned, recorded, setsUp⟩
    · exact .inl hangs
    · refine .inr ⟨result, calls, returned, recorded, setsUp.advances.roster, ?_, ?_⟩
      · rintro ⟨i, found, grounded⟩ able
        rw [located] at found
        cases found
        exact setsUp.succeeds able calm.sound.steady rfl grounded fun j pending =>
          absurd pending (calm.settled j)
      · rintro rfl
        obtain ⟨joined, split, nodup, closure⟩ := setsUp.closure calm.sound calm.settled inside
        have grounded := setsUp.grounded calm.sound calm.settled inside
        have settledAfter : (Ensemble.setUp dispatch name options e).2.lifecycle.Settled :=
          fun j pending => calm.settled j (setsUp.isPending rfl pending)
        have leads : ∀ j, e.lifecycle.registry.LeadsTo name j ↔
            ReflTransGen e.lifecycle.registry.Needs index j := by
          intro j
          constructor
          · rintro ⟨i, found, path⟩
            rw [located] at found
            cases found
            exact path
          · intro path
            exact ⟨index, located, path⟩
        refine ⟨⟨index, located, grounded⟩, ⟨(setsUp.sound calm.sound).1, settledAfter⟩, joined,
          split, nodup, ?_⟩
        intro j
        rw [closure j, leads j]

/-- Sets up plugins by name, one after the other, until one fails. -/
def setUpEach (dispatch : Dispatch) : List (String × Options) → Act Ensemble (Except Failure Unit)
  | [] => pure (.ok ())
  | (name, options) :: rest => do
    match ← setUp dispatch name options with
    | .ok _ => setUpEach dispatch rest
    | .error e => pure (.error e)

/-- Several names can be set up if each one can, and what is set up then is what they lead to. -/
theorem Calm.setUpEach (calm : e.Calm) (dispatch : Dispatch) (names : List (String × Options)) :
    (setUpEach dispatch names e).1 = .stalled ∧
        HangsIn e (setUpEach dispatch names e).2 ∨
      ∃ result calls, (setUpEach dispatch names e).1 = .returned result ∧
        (setUpEach dispatch names e).2.calls = e.calls ++ calls ∧
        ((∀ n ∈ names, e.lifecycle.registry.Admits n.1) →
          (∀ plugin, Call.left plugin .setUp false ∉ calls) → result = .ok ()) ∧
        (result = .ok () → (∀ n ∈ names, e.lifecycle.registry.Admits n.1) ∧
          ∀ j, j ∈ (setUpEach dispatch names e).2.lifecycle.initialized ↔
            j ∈ e.lifecycle.initialized ∨ ∃ n ∈ names, e.lifecycle.registry.LeadsTo n.1 j) := by
  induction names generalizing e with
  | nil =>
    refine .inr ⟨.ok (), [], rfl, (List.append_nil _).symm, fun _ _ => rfl, fun _ => ?_⟩
    simp [Ensemble.setUpEach]
  | cons n rest ih =>
    obtain ⟨name, options⟩ := n
    rcases calm.setUp dispatch name options with
      hangs | ⟨result, calls, returned, recorded, roster, succeeds, lists⟩
    · exact .inl (HangsIn.bind hangs _)
    · simp only [Ensemble.setUpEach, Act.bind_of_returned returned]
      cases result with
      | error failure =>
        refine .inr ⟨_, calls, rfl, recorded, fun all able => ?_, nofun⟩
        exact absurd (succeeds (all _ List.mem_cons_self) able) nofun
      | ok _ =>
        obtain ⟨admits, calmAfter, joined, split, _, closure⟩ := lists rfl
        rcases ih calmAfter with
          ⟨stalled, hangs⟩ | ⟨later, callsLater, ended, recordedLater, succeedsLater, listsLater⟩
        · exact .inl ⟨stalled, hangs.trans recorded⟩
        · refine .inr ⟨later, calls ++ callsLater, ended, ?_, ?_, ?_⟩
          · rw [recordedLater, recorded, List.append_assoc]
          · intro all able
            apply succeedsLater
            · intro n member
              exact (Registry.admits_congr roster).2 (all n (List.mem_cons_of_mem _ member))
            · intro plugin member
              exact able plugin (List.mem_append_right _ member)
          · intro ok
            obtain ⟨admitsLater, listed⟩ := listsLater ok
            constructor
            · intro n member
              rcases List.mem_cons.1 member with rfl | member
              · exact admits
              · exact (Registry.admits_congr roster).1 (admitsLater n member)
            · intro j
              rw [listed j, split, List.mem_append, closure j]
              simp only [List.mem_cons, exists_eq_or_imp, Registry.leadsTo_congr roster]
              by_cases old : j ∈ e.lifecycle.initialized
              · simp only [old, true_or]
              · simp only [old, false_or, not_false_eq_true, and_true]

/-- Every call of a plugin to set itself up that was made between two states came to an end, and
succeeded. -/
structure SetUpsSucceed (before after : Ensemble) : Prop where
  ended : ¬ HangsIn before after
  succeeded : ∀ calls, after.calls = before.calls ++ calls →
    ∀ plugin, Call.left plugin .setUp false ∉ calls

/-- As long as setting up did not fail, it succeeds if and only if the name is registered, all that
it leads to is registered, and nothing there leads back to itself. It lists what the name leads to,
so it does not matter in which order several names are set up. -/
theorem setUp_resolves (made : catalogue.Steady)
    (reached : Reached dispatch catalogue Operation.Untroubled e) :
    (∀ name options,
      ((setUp dispatch name options e).1 = .returned (.ok ()) →
        e.lifecycle.registry.Admits name ∧
        ∃ joined, (setUp dispatch name options e).2.lifecycle.initialized =
            e.lifecycle.initialized ++ joined ∧ joined.Nodup ∧
          ∀ j, j ∈ joined ↔
            e.lifecycle.registry.LeadsTo name j ∧ j ∉ e.lifecycle.initialized) ∧
      (e.SetUpsSucceed (setUp dispatch name options e).2 →
        (∃ result, (setUp dispatch name options e).1 = .returned result) ∧
        ((setUp dispatch name options e).1 = .returned (.ok ()) ↔
          e.lifecycle.registry.Admits name))) ∧
    ∀ first second : List (String × Options),
      (first.map Prod.fst).Perm (second.map Prod.fst) →
      (setUpEach dispatch first e).1 = .returned (.ok ()) →
      e.SetUpsSucceed (setUpEach dispatch second e).2 →
      (setUpEach dispatch second e).1 = .returned (.ok ()) ∧
      ∀ j, j ∈ (setUpEach dispatch first e).2.lifecycle.initialized ↔
        j ∈ (setUpEach dispatch second e).2.lifecycle.initialized := by
  have calm : e.Calm := ⟨reached.sound made, reached.settled made⟩
  constructor
  · intro name options
    rcases calm.setUp dispatch name options with
      ⟨stalled, hangs⟩ | ⟨result, calls, returned, recorded, _, succeeds, lists⟩
    · constructor
      · intro succeeded
        rw [stalled] at succeeded
        cases succeeded
      · intro able
        exact absurd hangs able.ended
    · rw [returned, Flow.returned.injEq]
      constructor
      · intro ok
        exact ⟨(lists ok).1, (lists ok).2.2⟩
      · intro able
        refine ⟨⟨result, rfl⟩, fun ok => (lists ok).1, ?_⟩
        intro admits
        exact succeeds admits (able.succeeded calls recorded)
  · intro first second names succeeded able
    -- both lists admit the same names and lead to the same plugins
    have same : ∀ P : String → Prop, (∃ n ∈ first, P n.1) ↔ ∃ n ∈ second, P n.1 := by
      intro P
      have named : ∀ name, (∃ n ∈ first, n.1 = name) ↔ ∃ n ∈ second, n.1 = name := by
        intro name
        simpa only [List.mem_map] using names.mem_iff (a := name)
      constructor
      · rintro ⟨n, member, holds⟩
        obtain ⟨m, found, equal⟩ := (named n.1).1 ⟨n, member, rfl⟩
        exact ⟨m, found, equal ▸ holds⟩
      · rintro ⟨n, member, holds⟩
        obtain ⟨m, found, equal⟩ := (named n.1).2 ⟨n, member, rfl⟩
        exact ⟨m, found, equal ▸ holds⟩
    rcases calm.setUpEach dispatch first with
      ⟨stalled, _⟩ | ⟨_, _, returned, _, _, lists⟩
    · rw [stalled] at succeeded
      cases succeeded
    · rw [returned, Flow.returned.injEq] at succeeded
      obtain ⟨admitted, listed⟩ := lists succeeded
      rcases calm.setUpEach dispatch second with
        ⟨_, hangs⟩ | ⟨_, calls, returned', recorded, succeeds, lists'⟩
      · exact absurd hangs able.ended
      · have admitted' : ∀ n ∈ second, e.lifecycle.registry.Admits n.1 := by
          intro n member
          by_contra barred
          obtain ⟨m, found, refused⟩ :=
            (same fun name => ¬ e.lifecycle.registry.Admits name).2 ⟨n, member, barred⟩
          exact refused (admitted m found)
        have ok := succeeds admitted' (able.succeeded calls recorded)
        refine ⟨by rw [returned', ok], ?_⟩
        intro j
        rw [listed j, (lists' ok).2 j, same fun name => e.lifecycle.registry.LeadsTo name j]

/-- Two plugins that share a third one can be set up, and one that needs itself cannot. -/
theorem setUp_resolves_of_four :
    let plugin := fun (name : String) (needs : List Dependency) =>
      ({ type := name, name := name, requires := fun _ => needs } : Plugin)
    let perform := fun (operation : Operation) (e : Ensemble) =>
      (operation.perform (Code.runWithin 1) [] e).2
    let e := perform (.setUp "left" .empty) (perform (.register (plugin "loop" [.named "loop"]))
      (perform (.register (plugin "top" [.named "left", .typed "base"]))
        (perform (.register (plugin "left" [.named "base"]))
          (perform (.register (plugin "base" [])) {}))))
    e.lifecycle.initialized = [0, 1] ∧ e.lifecycle.registry.Admits "top" ∧
      ¬ e.lifecycle.registry.Admits "loop" := by
  intro plugin perform e
  have registered : ∀ e name needs, Reached (Code.runWithin 1) [] Operation.Untroubled e →
      Reached (Code.runWithin 1) [] Operation.Untroubled
        (perform (.register (plugin name needs)) e) :=
    fun _ _ _ reached => .step (.register _) reached (fun _ _ => rfl) nofun trivial
  have reached : Reached (Code.runWithin 1) [] Operation.Untroubled e := by
    refine .step (.setUp "left" .empty) ?_ trivial (by decide +kernel)
      (by unfold Operation.Untroubled; decide +kernel)
    exact registered _ _ _ (registered _ _ _ (registered _ _ _ (registered _ _ _ (.fresh {}))))
  have resolves := (setUp_resolves (fun t member => absurd member List.not_mem_nil) reached).1
  refine ⟨by decide +kernel, ((resolves "top" .empty).1 (by decide +kernel)).1, fun admits => ?_⟩
  have silent : (setUp (Code.runWithin 1) "loop" .empty e).2.calls = e.calls := by decide +kernel
  have able : e.SetUpsSucceed (setUp (Code.runWithin 1) "loop" .empty e).2 := by
    constructor
    · rintro ⟨calls, last, recorded⟩
      rw [silent] at recorded
      have length := congrArg List.length recorded
      simp only [List.length_append, List.length_cons] at length
      omega
    · intro calls recorded last member
      rw [silent] at recorded
      have length := congrArg List.length recorded
      rw [List.length_append] at length
      have none : calls = [] := List.eq_nil_of_length_eq_zero (by omega)
      rw [none] at member
      cases member
  have succeeded := ((resolves "loop" .empty).2 able).2.2 admits
  exact absurd succeeded (by decide +kernel)

end Ensemble

end PluginHost
