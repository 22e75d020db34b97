import PluginHost.Code.Run
import PluginHost.Proofs.Executor.Arbitration
import Mathlib.Data.List.Nodup

set_option autoImplicit false

namespace PluginHost

namespace Code

/-- The code with every post going to queue 0. -/
def redirect : Code → Code
  | .done result => .done result
  | .panic payload => .panic payload
  | .hang => .hang
  | .ask request next => .ask request fun answer => redirect (next answer)
  | .post priority _ body next =>
    .post priority 0 (redirect body) fun result => redirect (next result)
  | .keep key priority _ body next => .keep key priority 0 (redirect body) (redirect next)
  | .invoke key next => .invoke key fun result => redirect (next result)
  | .subscribe channel subscriber next =>
    .subscribe channel (fun message => redirect (subscriber message)) fun number =>
      redirect (next number)
  | .provide method priority provider next =>
    .provide method priority (fun argument => redirect (provider argument)) fun count =>
      redirect (next count)
  | .spawn yields body next => .spawn yields (redirect body) fun result => redirect (next result)
  | .tick interval watch body next =>
    .tick interval watch (redirect body) fun result => redirect (next result)
  | .listen next => .listen fun listening => redirect (next listening)
  | .attempt origin body next =>
    .attempt origin (redirect body) fun result => redirect (next result)
  | .execute next => .execute fun result => redirect (next result)
  | .deliver channel message next => .deliver channel message fun result => redirect (next result)
  | .call method argument next => .call method argument fun result => redirect (next result)

/-- Whether what follows a request depends on the queues one by one: of a look at the queues only
their number and the number of all waiting tasks may matter, and the policy stays in force. -/
def Overlooks : (request : Request) → (request.Answer → Code) → Prop
  | .queues, next => ∀ v w : List QueueView,
      v.length = w.length → QueueViews.total v = QueueViews.total w → next v = next w
  | .setPolicy policy, _ => policy = .highestPriority
  | _, _ => True

/-- Code that posts to queues below a number only and does not look at the queues one by one, and
so for all code that it hands on. -/
def Blind (n : Nat) : Code → Prop
  | .done _ | .panic _ | .hang => True
  | .ask request next => Overlooks request next ∧ ∀ answer, Blind n (next answer)
  | .post _ queue body next => queue < n ∧ Blind n body ∧ ∀ result, Blind n (next result)
  | .keep _ _ queue body next => queue < n ∧ Blind n body ∧ Blind n next
  | .invoke _ next => ∀ result, Blind n (next result)
  | .subscribe _ subscriber next =>
    (∀ message, Blind n (subscriber message)) ∧ ∀ number, Blind n (next number)
  | .provide _ _ provider next =>
    (∀ argument, Blind n (provider argument)) ∧ ∀ count, Blind n (next count)
  | .spawn _ body next => Blind n body ∧ ∀ result, Blind n (next result)
  | .tick _ _ body next => Blind n body ∧ ∀ result, Blind n (next result)
  | .listen next => ∀ listening, Blind n (next listening)
  | .attempt _ body next => Blind n body ∧ ∀ result, Blind n (next result)
  | .execute next => ∀ result, Blind n (next result)
  | .deliver _ _ next => ∀ result, Blind n (next result)
  | .call _ _ next => ∀ result, Blind n (next result)

end Code

def Task.redirect (t : Task Code) : Task Code := { t with body := t.body.redirect }

/-- Two executors that hold the same tasks, those of the second one redirected. -/
structure Executor.Redirects (n : Nat) (e f : Executor Code) : Prop where
  positive : 0 < n
  registered : n ≤ e.queues.size
  count : f.queues.size = e.queues.size
  policy : e.policy = .highestPriority
  samePolicy : f.policy = .highestPriority
  posted : f.posted = e.posted
  tasks : f.tasks.Perm (e.tasks.map Task.redirect)
  issued : ∀ t ∈ e.tasks, t.sequence < e.posted
  distinct : (e.tasks.map Task.sequence).Nodup
  blind : ∀ t ∈ e.tasks, t.body.Blind n

namespace Executor.Redirects

variable {n : Nat} {e f : Executor Code}

theorem pending (r : Redirects n e f) : f.pending = e.pending := by
  rw [pending_eq_length, pending_eq_length, r.tasks.length_eq, List.length_map]

theorem post? (r : Redirects n e f) (priority : Int) {queue : Nat} {body : Code}
    (inside : queue < n) (blind : body.Blind n) :
    ∃ e' f', e.post? priority queue body = some e' ∧ f.post? priority 0 body.redirect = some f' ∧
      Redirects n e' f' := by
  have registered := r.registered
  have count := r.count
  have acceptedE : e.post? priority queue body ≠ none := by
    rw [Ne, post?_eq_none_iff]
    omega
  have acceptedF : f.post? priority 0 body.redirect ≠ none := by
    rw [Ne, post?_eq_none_iff]
    omega
  obtain ⟨e', postedE⟩ := Option.ne_none_iff_exists'.1 acceptedE
  obtain ⟨f', postedF⟩ := Option.ne_none_iff_exists'.1 acceptedF
  obtain ⟨issuedE, policyE⟩ := posted_post? postedE
  obtain ⟨issuedF, policyF⟩ := posted_post? postedF
  have tasksE := tasks_post? postedE
  have tasksF := tasks_post? postedF
  refine ⟨e', f', postedE, postedF, r.positive, ?_, ?_, ?_, ?_, ?_, ?_, ?_, ?_, ?_⟩
  · rw [size_queues_post? postedE]
    exact registered
  · rw [size_queues_post? postedE, size_queues_post? postedF]
    exact count
  · rw [policyE]
    exact r.policy
  · rw [policyF]
    exact r.samePolicy
  · rw [issuedE, issuedF, r.posted]
  · refine tasksF.trans (List.Perm.trans ?_ (tasksE.map Task.redirect).symm)
    rw [List.map_cons, r.posted]
    exact List.Perm.cons _ r.tasks
  · intro t member
    rw [issuedE]
    rcases List.mem_cons.1 (tasksE.mem_iff.1 member) with rfl | old
    · show e.posted < e.posted + 1
      omega
    · have below := r.issued t old
      omega
  · rw [(tasksE.map Task.sequence).nodup_iff, List.map_cons, List.nodup_cons]
    refine ⟨?_, r.distinct⟩
    intro used
    obtain ⟨t, old, same⟩ := List.mem_map.1 used
    have below := r.issued t old
    rw [same] at below
    simp at below
  · intro t member
    rcases List.mem_cons.1 (tasksE.mem_iff.1 member) with rfl | old
    · exact blind
    · exact r.blind t old

theorem clear (r : Redirects n e f) : Redirects n e.clear f.clear where
  positive := r.positive
  registered := by simpa [Executor.clear] using r.registered
  count := by simpa [Executor.clear] using r.count
  policy := r.policy
  samePolicy := r.samePolicy
  posted := r.posted
  tasks := by simp
  issued := by simp
  distinct := by simp
  blind := by simp

theorem addQueue (r : Redirects n e f) : Redirects n e.addQueue f.addQueue where
  positive := r.positive
  registered := by
    have := r.registered
    simp only [Executor.addQueue, Array.size_push]
    omega
  count := by simp [Executor.addQueue, r.count]
  policy := r.policy
  samePolicy := r.samePolicy
  posted := r.posted
  tasks := by simpa only [tasks_addQueue] using r.tasks
  issued := by
    intro t member
    rw [tasks_addQueue] at member
    exact r.issued t member
  distinct := by simpa only [tasks_addQueue] using r.distinct
  blind := by simpa only [tasks_addQueue] using r.blind

/-- Setting the policy that is in force changes nothing. -/
theorem setPolicy (r : Redirects n e f) :
    Redirects n (e.setPolicy .highestPriority) (f.setPolicy .highestPriority) :=
  { r with policy := rfl, samePolicy := rfl }

/-- Numbers differ, so there is only one task that runs before all others: both take it. -/
theorem takesFirst (r : Redirects n e f) {t u : Task Code} {e' f' : Executor Code}
    (takesE : e.TakesFirst t e') (takesF : f.TakesFirst u f') :
    u = t.redirect ∧ t.body.Blind n ∧ Redirects n e' f' := by
  have waits : t ∈ e.tasks := takesE.perm.mem_iff.1 List.mem_cons_self
  have taken : u = t.redirect := by
    have waitsF : u ∈ f.tasks := takesF.perm.mem_iff.1 List.mem_cons_self
    obtain ⟨s, waitsS, rfl⟩ := List.mem_map.1 (r.tasks.mem_iff.1 waitsF)
    have notBefore := takesE.first s waitsS
    have notAfter := takesF.first t.redirect
      (r.tasks.mem_iff.2 (List.mem_map.2 ⟨t, waits, rfl⟩))
    have sameKey : s.key = t.key := Task.Key.eq_of_not_runsBefore notBefore notAfter
    have sameNumber : s.sequence = t.sequence := congrArg Task.Key.sequence sameKey
    rw [List.inj_on_of_nodup_map r.distinct waitsS waits sameNumber]
  subst taken
  have others : ∀ s ∈ e'.tasks, s ∈ e.tasks := fun s member =>
    takesE.perm.mem_iff.1 (List.mem_cons_of_mem _ member)
  refine ⟨rfl, r.blind t waits, r.positive, ?_, ?_, ?_, ?_, ?_, ?_, ?_, ?_, ?_⟩
  · rw [takesE.count]
    exact r.registered
  · rw [takesE.count, takesF.count]
    exact r.count
  · rw [takesE.policy]
    exact r.policy
  · rw [takesF.policy]
    exact r.samePolicy
  · rw [takesE.posted, takesF.posted]
    exact r.posted
  · have whole := takesF.perm.trans (r.tasks.trans (takesE.perm.map Task.redirect).symm)
    rw [List.map_cons] at whole
    exact whole.cons_inv
  · intro s member
    rw [takesE.posted]
    exact r.issued s (others s member)
  · have nodup := (takesE.perm.map Task.sequence).nodup_iff.2 r.distinct
    rw [List.map_cons, List.nodup_cons] at nodup
    exact nodup.2
  · exact fun s member => r.blind s (others s member)

/-- Either both hold nothing, or both take the same task. -/
theorem select (r : Redirects n e f) :
    (e.policy.select e.views = ⟨[], .ok .none⟩ ∧ f.policy.select f.views = ⟨[], .ok .none⟩) ∨
      ∃ selection selection' t e' f', e.policy.select e.views = ⟨[], .ok selection⟩ ∧
        f.policy.select f.views = ⟨[], .ok selection'⟩ ∧ e.follow selection = .task t e' true ∧
        f.follow selection' = .task t.redirect f' true ∧ t.body.Blind n ∧ Redirects n e' f' := by
  rcases e.select_highest r.policy with
    ⟨idle, selected⟩ | ⟨queue, t, e', selected, followed, takes⟩ <;>
  rcases f.select_highest r.samePolicy with
    ⟨idle', selected'⟩ | ⟨queue', u, f', selected', followed', takes'⟩
  · exact .inl ⟨selected, selected'⟩
  · have none := takes'.perm.trans r.tasks
    rw [idle] at none
    exact absurd none.eq_nil (List.cons_ne_nil _ _)
  · have none := r.tasks.symm.trans (List.Perm.of_eq idle')
    have some := (takes.perm.map Task.redirect).trans none
    exact absurd some.eq_nil (List.cons_ne_nil _ _)
  · obtain ⟨rfl, blind, related⟩ := r.takesFirst takes takes'
    exact .inr ⟨_, _, t, e', f', selected, selected', followed, followed', blind, related⟩

end Executor.Redirects

end PluginHost
