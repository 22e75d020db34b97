import PluginHost.Proofs.BringUp.Unasked

set_option autoImplicit false

namespace PluginHost

open Act (Matches)

namespace Code

/-- The code as it goes on until it looks whether somebody asked to quit, and no further. What it
hands on to be run by others stays as it is. -/
def shut : Code → Code
  | .done result => .done result
  | .panic payload => .panic payload
  | .hang => .hang
  | .ask request next =>
    if request.looks then .hang else .ask request fun answer => (next answer).shut
  | .post priority queue body next => .post priority queue body fun result => (next result).shut
  | .keep key priority queue body next => .keep key priority queue body next.shut
  | .invoke key next => .invoke key fun result => (next result).shut
  | .subscribe channel subscriber next => .subscribe channel subscriber fun n => (next n).shut
  | .provide method priority provider next =>
    .provide method priority provider fun count => (next count).shut
  | .spawn yields body next => .spawn yields body fun result => (next result).shut
  | .tick interval watch body next => .tick interval watch body fun result => (next result).shut
  | .listen next => .listen fun listening => (next listening).shut
  | .attempt origin body next => .attempt origin body.shut fun result => (next result).shut
  | .execute next => .execute fun result => (next result).shut
  | .deliver channel message next => .deliver channel message fun result => (next result).shut
  | .call method argument next => .call method argument fun result => (next result).shut

/-- Runs code as far as nothing in it looks whether somebody asked to quit, neither the code itself
nor other code that is run meanwhile. -/
def unseeing : Nat → Dispatch
  | 0, _ => Act.stall
  | depth + 1, code => run (unseeing depth) code.shut

/-- The second code does what the first does, and may ask to quit at any time in between. -/
inductive AddsQuits : Code → Code → Prop
  | quit {code : Code} {next : Request.quit.Answer → Code} (rest : AddsQuits code (next ())) :
      AddsQuits code (.ask .quit next)
  | done (result : Except Failure Json) : AddsQuits (.done result) (.done result)
  | panic (payload : PanicPayload) : AddsQuits (.panic payload) (.panic payload)
  | hang : AddsQuits .hang .hang
  | ask (request : Request) {next later : request.Answer → Code}
      (rest : ∀ answer, AddsQuits (next answer) (later answer)) :
      AddsQuits (.ask request next) (.ask request later)
  | post (priority : Int) (queue : Nat) (body : Code) {next later : Except Failure Unit → Code}
      (rest : ∀ result, AddsQuits (next result) (later result)) :
      AddsQuits (.post priority queue body next) (.post priority queue body later)
  | keep (key : String) (priority : Int) (queue : Nat) (body : Code) {next later : Code}
      (rest : AddsQuits next later) :
      AddsQuits (.keep key priority queue body next) (.keep key priority queue body later)
  | invoke (key : String) {next later : Option (Except Failure Unit) → Code}
      (rest : ∀ result, AddsQuits (next result) (later result)) :
      AddsQuits (.invoke key next) (.invoke key later)
  | subscribe (channel : Nat) (subscriber : Json → Code) {next later : Nat → Code}
      (rest : ∀ number, AddsQuits (next number) (later number)) :
      AddsQuits (.subscribe channel subscriber next) (.subscribe channel subscriber later)
  | provide (method : Nat) (priority : Int) (provider : Json → Code) {next later : Nat → Code}
      (rest : ∀ count, AddsQuits (next count) (later count)) :
      AddsQuits (.provide method priority provider next) (.provide method priority provider later)
  | spawn (yields : Nat) (body : Code) {next later : Except Failure Unit → Code}
      (rest : ∀ result, AddsQuits (next result) (later result)) :
      AddsQuits (.spawn yields body next) (.spawn yields body later)
  | tick (interval watch : Nat) (body : Code) {next later : Except Failure Unit → Code}
      (rest : ∀ result, AddsQuits (next result) (later result)) :
      AddsQuits (.tick interval watch body next) (.tick interval watch body later)
  | listen {next later : Bool → Code}
      (rest : ∀ listening, AddsQuits (next listening) (later listening)) :
      AddsQuits (.listen next) (.listen later)
  | attempt (origin : String) {body other : Code} {next later : Except Failure Json → Code}
      (within : AddsQuits body other) (rest : ∀ result, AddsQuits (next result) (later result)) :
      AddsQuits (.attempt origin body next) (.attempt origin other later)
  | execute {next later : Except Failure Bool → Code}
      (rest : ∀ result, AddsQuits (next result) (later result)) :
      AddsQuits (.execute next) (.execute later)
  | deliver (channel : Nat) (message : Json) {next later : Except Failure Unit → Code}
      (rest : ∀ result, AddsQuits (next result) (later result)) :
      AddsQuits (.deliver channel message next) (.deliver channel message later)
  | call (method : Nat) (argument : Json) {next later : Except Failure Json → Code}
      (rest : ∀ result, AddsQuits (next result) (later result)) :
      AddsQuits (.call method argument next) (.call method argument later)

/-- Code need not ask to quit. -/
theorem AddsQuits.refl (code : Code) : code.AddsQuits code := by
  induction code with
  | done result => exact .done result
  | panic payload => exact .panic payload
  | hang => exact .hang
  | ask request next ih => exact .ask request ih
  | post priority queue body next _ ih => exact .post priority queue body ih
  | keep key priority queue body next _ ih => exact .keep key priority queue body ih
  | invoke key next ih => exact .invoke key ih
  | subscribe channel subscriber next _ ih => exact .subscribe channel subscriber ih
  | provide method priority provider next _ ih => exact .provide method priority provider ih
  | spawn yields body next _ ih => exact .spawn yields body ih
  | tick interval watch body next _ ih => exact .tick interval watch body ih
  | listen next ih => exact .listen ih
  | attempt origin body next ihBody ih => exact .attempt origin ihBody ih
  | execute next ih => exact .execute ih
  | deliver channel message next ih => exact .deliver channel message ih
  | call method argument next ih => exact .call method argument ih

end Code

section

variable {unseeing seeing : Dispatch} (same : ∀ code, Matches Host.Agree (unseeing code) (seeing code))

include same

namespace Host

theorem runTask_matches (task : Task Code) (hint : Bool) :
    Matches Agree (runTask unseeing task hint) (runTask seeing task hint) := by
  refine (Matches.modify fun h k agree => agree.tell _ _ _ _).bind fun _ => ?_
  refine ((same task.body).guarded "task").bind fun result => ?_
  refine .look fun h k agree => ?_
  rw [agree.executor]
  exact .pure _

theorem execute_matches : Matches Agree (execute unseeing) (execute seeing) := by
  intro h k agree
  have noted := agree.notes (h.executor.policy.select h.executor.views).notes
  unfold execute
  rw [agree.executor]
  dsimp only
  rw [noted.executor]
  generalize (h.executor.policy.select h.executor.views).notes.foldl note h = h' at noted
  generalize (h.executor.policy.select h.executor.views).notes.foldl note k = k' at noted
  cases (h.executor.policy.select h.executor.views).selection with
  | error payload => exact fun _ => ⟨rfl, noted⟩
  | ok selection =>
    dsimp only
    cases h'.executor.follow selection with
    | idle more => exact fun _ => ⟨rfl, noted⟩
    | nothing queue more => exact fun _ => ⟨rfl, noted.tell _ _ _ _⟩
    | task task rest hint => exact runTask_matches same task hint _ _ (noted.withExecutor rest)

theorem runSubscribers_matches (channel : String) (codes : List Code) :
    Matches Agree (runSubscribers unseeing channel codes) (runSubscribers seeing channel codes) := by
  induction codes with
  | nil => exact .pure _
  | cons code rest ih =>
    refine (same code).bind fun result => ?_
    cases result with
    | ok _ => exact ih
    | error e =>
      refine (Matches.modify fun h k agree => agree.tell _ _ _ _).bind fun _ => ?_
      exact ih.bind fun _ => .pure _

theorem deliver_matches (channel : Nat) (message : Json) :
    Matches Agree (deliver unseeing channel message) (deliver seeing channel message) := by
  intro h k agree
  unfold deliver
  rw [agree.channels]
  cases h.channels[channel]? with
  | none => exact fun _ => ⟨rfl, agree⟩
  | some c => exact runSubscribers_matches same _ _ _ _ (agree.tell _ _ _ _)

theorem askProviders_matches (method : String) (last : Failure) (codes : List Code) :
    Matches Agree (askProviders unseeing method last codes)
      (askProviders seeing method last codes) := by
  induction codes generalizing last with
  | nil => exact .pure _
  | cons code rest ih =>
    refine (same code).bind fun result => ?_
    cases result with
    | ok value => exact .pure _
    | error e => exact (Matches.modify fun h k agree => agree.tell _ _ _ _).bind fun _ => ih e

theorem call_matches (method : Nat) (argument : Json) :
    Matches Agree (call unseeing method argument) (call seeing method argument) := by
  intro h k agree
  unfold call
  rw [agree.methods]
  cases h.methods[method]? with
  | none => exact fun _ => ⟨rfl, agree⟩
  | some m => exact askProviders_matches same _ _ _ _ _ agree

end Host

namespace Code

theorem run_matches {code other : Code} (adds : code.AddsQuits other) :
    Matches Host.Agree (run unseeing code.shut) (run seeing other) := by
  induction adds with
  | @quit code next rest ih =>
    -- the first code does nothing here
    intro h k agree ended
    have asked : h.Agree k.quit := (Host.unasked_quit k).trans agree
    exact ih h k.quit asked ended
  | done result => exact .pure _
  | panic payload => exact .panic payload
  | hang => exact .stall _
  | ask request rest ih =>
    unfold shut
    cases looks : request.looks with
    | true => exact .stall _
    | false => exact (Host.deaf_answer looks).matches.bind ih
  | post priority queue body rest ih => exact (Host.deaf_post priority queue body).matches.bind ih
  | keep key priority queue body rest ih =>
    exact (Host.deaf_keep key ⟨priority, queue, body⟩).matches.bind fun _ => ih
  | invoke key rest ih => exact (Host.deaf_invoke key).matches.bind ih
  | subscribe channel subscriber rest ih =>
    exact (Host.deaf_subscribe channel subscriber).matches.bind ih
  | provide method priority provider rest ih =>
    exact (Host.deaf_provide method priority provider).matches.bind ih
  | spawn yields body rest ih | tick interval watch body rest ih =>
    exact (Host.deaf_spawn _).matches.bind ih
  | listen rest ih => exact Host.deaf_listen.matches.bind ih
  | attempt origin within rest ihWithin ih => exact (ihWithin.guarded origin).bind ih
  | execute rest ih => exact (Host.execute_matches same).bind ih
  | deliver channel message rest ih => exact (Host.deliver_matches same channel message).bind ih
  | call method argument rest ih => exact (Host.call_matches same method argument).bind ih

end Code

end

/-- What ends without looking whether somebody asked to quit comes to the same with the flag in
sight, on any host that differs in that alone, and when it asks to quit in between. -/
theorem Code.runWithin_matches (depth : Nat) {code other : Code} (adds : code.AddsQuits other) :
    Matches Host.Agree (unseeing depth code) (runWithin depth other) := by
  induction depth generalizing code other with
  | zero => exact .stall _
  | succ depth ih => exact run_matches (fun code => ih (.refl code)) adds

end PluginHost
