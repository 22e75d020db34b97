import Mathlib.Data.List.Sort
import PluginHost.Proofs.Messaging.Course
import PluginHost.Proofs.Messaging.Invocations

/-!
In which order the providers of a method are asked. Each provider is put in its place when it
registers, and the list that comes of it is the sequence of registrations sorted by priority, where
equal priorities stay in the order of registration. A call asks along the list that it finds.
-/

set_option autoImplicit false

namespace PluginHost

namespace Method

variable {α β μ : Type}

def mayPrecede (first second : Int × α) : Bool := second.1 ≤ first.1

theorem mayPrecede_iff {first second : Int × α} :
    mayPrecede first second = true ↔ second.1 ≤ first.1 := decide_eq_true_iff

theorem mayPrecede_trans (a b c : Int × α) (first : mayPrecede a b = true)
    (second : mayPrecede b c = true) : mayPrecede a c = true :=
  mayPrecede_iff.2 (Int.le_trans (mayPrecede_iff.1 second) (mayPrecede_iff.1 first))

theorem mayPrecede_total (a b : Int × α) : (mayPrecede a b || mayPrecede b a) = true := by
  rw [Bool.or_eq_true, mayPrecede_iff, mayPrecede_iff]
  exact Int.le_total b.1 a.1

/-- Registrations sorted by descending priority, and otherwise in the order in which they were
made. -/
def byPriority (registrations : List (Int × α)) : List (Int × α) :=
  registrations.mergeSort mayPrecede

/-- The greater priority does not come later. -/
def Descending (providers : List (Int × α)) : Prop :=
  providers.Pairwise fun first second => mayPrecede first second = true

theorem byPriority_descending (registrations : List (Int × α)) :
    Descending (byPriority registrations) :=
  List.pairwise_mergeSort mayPrecede_trans mayPrecede_total registrations

def ranked (priority : Int) (providers : List (Int × α)) : List (Int × α) :=
  providers.filter fun p => p.1 = priority

theorem mem_ranked {priority : Int} {providers : List (Int × α)} {p : Int × α} :
    p ∈ ranked priority providers ↔ p ∈ providers ∧ p.1 = priority := by
  simp only [ranked, List.mem_filter, decide_eq_true_eq]

theorem ranked_cons_self (p : Int × α) (rest : List (Int × α)) :
    ranked p.1 (p :: rest) = p :: ranked p.1 rest :=
  List.filter_cons_of_pos (decide_eq_true rfl)

theorem ranked_append (priority : Int) (first second : List (Int × α)) :
    ranked priority (first ++ second) = ranked priority first ++ ranked priority second :=
  List.filter_append ..

theorem ranked_cons_of_ne {p : Int × α} {priority : Int} (apart : p.1 ≠ priority)
    (rest : List (Int × α)) : ranked priority (p :: rest) = ranked priority rest :=
  List.filter_cons_of_neg (by simpa only [decide_eq_true_eq] using apart)

/-- The registrations of one priority are sorted as they were made. -/
theorem ranked_byPriority (priority : Int) (registrations : List (Int × α)) :
    ranked priority (byPriority registrations) = ranked priority registrations := by
  have sorted : Descending (ranked priority registrations) := by
    refine List.pairwise_of_forall_mem_list fun a first b second => mayPrecede_iff.2 ?_
    rw [(mem_ranked.1 first).2, (mem_ranked.1 second).2]
  have within : (ranked priority registrations).Sublist (byPriority registrations) :=
    List.sublist_mergeSort mayPrecede_trans mayPrecede_total sorted List.filter_sublist
  have found := within.filter fun p => decide (p.1 = priority)
  rw [ranked, List.filter_filter] at found
  simp only [Bool.and_self] at found
  have perm := (List.mergeSort_perm registrations mayPrecede).filter
    fun p => decide (p.1 = priority)
  exact (found.eq_of_length perm.length_eq.symm).symm

theorem Descending.le_head {rest : List (Int × α)} {p q : Int × α}
    (ordered : Descending (p :: rest)) (member : q ∈ p :: rest) : q.1 ≤ p.1 := by
  rcases List.mem_cons.1 member with rfl | later
  · exact Int.le_refl _
  · exact mayPrecede_iff.1 ((List.pairwise_cons.1 ordered).1 q later)

/-- Two lists in descending order that agree for each priority are one. -/
theorem eq_of_descending {first second : List (Int × α)} (ordered : Descending first)
    (orderedToo : Descending second)
    (same : ∀ priority, ranked priority first = ranked priority second) : first = second := by
  induction first generalizing second with
  | nil =>
    cases second with
    | nil => rfl
    | cons q _ =>
      have here := same q.1
      rw [ranked_cons_self] at here
      cases here
  | cons p rest ih =>
    cases second with
    | nil =>
      have here := same p.1
      rw [ranked_cons_self] at here
      cases here
    | cons q others =>
      have here : p ∈ ranked p.1 (q :: others) := same p.1 ▸ mem_ranked.2 ⟨List.mem_cons_self, rfl⟩
      have there : q ∈ ranked q.1 (p :: rest) := same q.1 ▸ mem_ranked.2 ⟨List.mem_cons_self, rfl⟩
      have equal : p.1 = q.1 := Int.le_antisymm (orderedToo.le_head (mem_ranked.1 here).1)
        (ordered.le_head (mem_ranked.1 there).1)
      have heads := same p.1
      rw [ranked_cons_self, equal, ranked_cons_self, List.cons.injEq] at heads
      obtain ⟨rfl, _⟩ := heads
      refine congrArg _ (ih ordered.of_cons orderedToo.of_cons fun priority => ?_)
      have here := same priority
      by_cases apart : p.1 = priority
      · subst apart
        rw [ranked_cons_self, ranked_cons_self] at here
        exact List.cons_injective here
      · rwa [ranked_cons_of_ne apart, ranked_cons_of_ne apart] at here

theorem insertProvider_perm (priority : Int) (provider : μ → β) (providers : List (Int × (μ → β))) :
    (insertProvider priority provider providers).Perm ((priority, provider) :: providers) := by
  induction providers with
  | nil => exact .refl _
  | cons p rest ih =>
    rw [insertProvider]
    split
    · exact .refl _
    · exact (ih.cons p).trans (.swap _ _ _)

theorem insertProvider_descending (priority : Int) (provider : μ → β)
    {providers : List (Int × (μ → β))} (ordered : Descending providers) :
    Descending (insertProvider priority provider providers) := by
  induction providers with
  | nil => exact List.pairwise_singleton _ _
  | cons p rest ih =>
    obtain ⟨above, later⟩ := List.pairwise_cons.1 ordered
    rw [insertProvider]
    split
    · rename_i lower
      have first : ∀ q ∈ p :: rest, mayPrecede (priority, provider) q = true := by
        have heads : mayPrecede (priority, provider) p = true :=
          mayPrecede_iff.2 (Int.le_of_lt lower)
        exact List.forall_mem_cons.2 ⟨heads, fun q member => mayPrecede_trans _ _ _ heads (above q member)⟩
      exact List.pairwise_cons.2 ⟨first, ordered⟩
    · rename_i higher
      refine List.pairwise_cons.2 ⟨fun q member => ?_, ih later⟩
      rcases List.mem_cons.1 ((insertProvider_perm _ _ _).subset member) with rfl | old
      · exact mayPrecede_iff.2 (Int.not_lt.1 higher)
      · exact above q old

/-- A provider comes after those of its priority that are there. -/
theorem ranked_insertProvider (priority : Int) (provider : μ → β)
    {providers : List (Int × (μ → β))} (ordered : Descending providers) (other : Int) :
    ranked other (insertProvider priority provider providers) =
      ranked other (providers ++ [(priority, provider)]) := by
  induction providers with
  | nil => rfl
  | cons p rest ih =>
    rw [insertProvider]
    split
    · rename_i lower
      rw [ranked_append]
      by_cases apart : priority = other
      · subst apart
        have none : ranked priority (p :: rest) = [] := by
          refine List.eq_nil_iff_forall_not_mem.2 fun q found => ?_
          obtain ⟨member, rfl⟩ := mem_ranked.1 found
          exact Int.not_lt.2 (ordered.le_head member) lower
        have mine := ranked_cons_self (priority, provider)
        rw [none, mine, none, mine]
        rfl
      · have apart : (priority, provider).1 ≠ other := apart
        rw [ranked_cons_of_ne apart, ranked_cons_of_ne apart]
        exact (List.append_nil _).symm
    · rw [List.cons_append]
      have later := ih ordered.of_cons
      by_cases apart : p.1 = other
      · subst apart
        rw [ranked_cons_self, ranked_cons_self, later]
      · rw [ranked_cons_of_ne apart, ranked_cons_of_ne apart, later]

/-- To register one more provider is to sort one more registration. -/
theorem insertProvider_byPriority (priority : Int) (provider : μ → β)
    (registrations : List (Int × (μ → β))) :
    insertProvider priority provider (byPriority registrations) =
      byPriority (registrations ++ [(priority, provider)]) := by
  have ordered := byPriority_descending registrations
  refine eq_of_descending (insertProvider_descending priority provider ordered)
    (byPriority_descending _) fun other => ?_
  rw [ranked_insertProvider priority provider ordered, ranked_byPriority, ranked_append,
    ranked_append, ranked_byPriority]

end Method

def Occurrence.registration? (method : Nat) : Occurrence → Option (Int × (Json → Code))
  | .provided other priority provider => if other = method then some (priority, provider) else none
  | _ => none

def registrations (method : Nat) (occurrences : List Occurrence) : List (Int × (Json → Code)) :=
  occurrences.filterMap (Occurrence.registration? method)

theorem registrations_cons (method : Nat) (first : Occurrence) (later : List Occurrence) :
    registrations method (first :: later) =
      (first.registration? method).toList ++ registrations method later := by
  simp only [registrations, List.filterMap_cons]
  cases first.registration? method <;> rfl

/-- A method of a name has the providers that made these registrations. -/
def Host.Provides (h : Host) (method : Nat) (name : String) (made : List (Int × (Json → Code))) :
    Prop :=
  h.methods[method]? = some ⟨name, Method.byPriority made⟩

variable {h last : Host} {method : Nat} {name : String} {made : List (Int × (Json → Code))}

theorem Occurs.provides {occurrence : Occurrence} (occurs : Occurs h occurrence last)
    (provides : h.Provides method name made) :
    last.Provides method name (made ++ (occurrence.registration? method).toList) := by
  unfold Host.Provides at provides ⊢
  have none : ∀ {o : Occurrence}, o.registration? method = none →
      made ++ (o.registration? method).toList = made := by
    intro o none
    rw [none]
    exact List.append_nil made
  cases occurs with
  | served call executor channels methods => rw [none rfl, methods, provides]
  | subscribed channel subscriber => rw [none rfl, Host.methods_subscribe, provides]
  | unsubscribed channel number => rw [none rfl, Host.methods_unsubscribe, provides]
  | provided other priority provider =>
    rw [Host.methods_provide, provides, Occurrence.registration?]
    split
    · rw [Option.map_some, Method.register, Method.insertProvider_byPriority]
      rfl
    · rw [Option.toList_none, List.append_nil]
  | aside executor channels methods => rw [none rfl, methods method _ provides]

theorem Course.provides {occurrences : List Occurrence} (course : Course h occurrences last)
    (provides : h.Provides method name made) :
    last.Provides method name (made ++ registrations method occurrences) := by
  induction course generalizing made with
  | nil =>
    rw [registrations, List.filterMap_nil, List.append_nil]
    exact provides
  | cons occurs _ ih =>
    rw [registrations_cons, ← List.append_assoc]
    exact ih (occurs.provides provides)

theorem registrations_append (method : Nat) (earlier later : List Occurrence) :
    registrations method (earlier ++ later) =
      registrations method earlier ++ registrations method later := List.filterMap_append

/-- After any course of events, and for whatever the providers do when they are asked: a call asks
those who registered before it, sorted by priority, up to the first one that succeeds. Whoever
registers during the call takes a place in the list, for later calls. -/
theorem Course.calls_by_priority {h₀ h : Host} {method : Nat} {name : String}
    {occurrences : List Occurrence} (fresh : h₀.methods[method]? = some (.new name))
    (course : Course h₀ occurrences h) :
    h.Provides method name (registrations method occurrences) ∧
      (∀ dispatch argument,
        let codes := (Method.byPriority (registrations method occurrences)).map fun p => p.2 argument
        let called := Host.call dispatch method argument h
        ∃ invoked, Invokes dispatch (Host.reportProvider name) h invoked called.2 ∧
          Asked (.noProvider name) codes invoked called.1 ∧
          ((∀ i ∈ invoked, i.Returned) → ∃ result, called.1 = .returned result)) ∧
      ∀ depth argument,
        let called := Host.call (Code.runWithin depth) method argument h
        called.1 ≠ .stalled → ∃ later, Course h later called.2 ∧
          called.2.Provides method name (registrations method (occurrences ++ later)) := by
  have start : h₀.Provides method name [] := by
    rw [Host.Provides, Method.byPriority, List.mergeSort_nil]
    exact fresh
  have provides : h.Provides method name (registrations method occurrences) :=
    course.provides start
  refine ⟨provides, ?_, ?_⟩
  · intro dispatch argument codes called
    obtain ⟨invoked, invokes, asked⟩ := Host.call_asked dispatch provides argument
    exact ⟨invoked, invokes, asked, asked.returned⟩
  · intro depth argument called ended
    have along := Host.upheld_becomes.runWithin depth
    obtain ⟨later, more⟩ := Host.upheld_becomes.call along method argument h h (.refl h) ended
    refine ⟨later, more, ?_⟩
    rw [registrations_append]
    exact more.provides provides

/-- Of four providers the first in line registers one more, above itself, and fails; the second one
has the same priority and answers. -/
theorem Course.calls_by_priority_of_four :
    let fails : Code := .fail (Failure.new .notFound "miss")
    let returns (value : Int) : Json → Code := fun _ => .done (.ok (.int value))
    let registers : Json → Code := fun _ => .provide 0 100 (returns 4) fun _ => fails
    let h₀ := (({} : Host).method "lookup").2
    let h₁ := (h₀.provide 0 (-5) (returns 1)).2
    let h₂ := (h₁.provide 0 50 registers).2
    let h₃ := (h₂.provide 0 50 (returns 2)).2
    let h := (h₃.provide 0 10 (returns 3)).2
    let called := Host.call (Code.runWithin 1) 0 .null h
    let made := [(-5, returns 1), (50, registers), (50, returns 2), (10, returns 3)]
    h.Provides 0 "lookup" made ∧
      (∃ invoked, Invokes (Code.runWithin 1) (Host.reportProvider "lookup") h invoked called.2 ∧
        Asked (.noProvider "lookup") ((Method.byPriority made).map fun p => p.2 .null) invoked
          called.1 ∧
        ((∀ i ∈ invoked, i.Returned) → ∃ result, called.1 = .returned result)) ∧
      called.1 = .returned (.ok (.int 2)) ∧
      ∃ later, Course h later called.2 ∧
        called.2.Provides 0 "lookup" (made ++ registrations 0 later) := by
  intro fails returns registers h₀ h₁ h₂ h₃ h called made
  let occurrences : List Occurrence := [.provided 0 (-5) (returns 1), .provided 0 50 registers,
    .provided 0 50 (returns 2), .provided 0 10 (returns 3)]
  have course : Course h₀ occurrences h :=
    .cons (.provided h₀ 0 (-5) (returns 1)) <| .cons (.provided h₁ 0 50 registers) <|
      .cons (.provided h₂ 0 50 (returns 2)) <| .single (.provided h₃ 0 10 (returns 3))
  have fresh : h₀.methods[0]? = some (.new "lookup") := rfl
  have registered : registrations 0 occurrences = made := rfl
  have answered : called.1 = .returned (.ok (.int 2)) := rfl
  have ended : called.1 ≠ .stalled := by
    rw [answered]
    exact nofun
  obtain ⟨provides, calls, during⟩ := Course.calls_by_priority fresh course
  obtain ⟨later, more, after⟩ := during 1 .null ended
  rw [registrations_append, registered] at after
  rw [registered] at provides calls
  exact ⟨provides, calls (Code.runWithin 1) .null, answered, later, more, after⟩

end PluginHost
