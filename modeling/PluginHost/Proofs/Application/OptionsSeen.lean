import PluginHost.Application.Basic
import PluginHost.Proofs.Options.Declared
import PluginHost.Proofs.Plugin.Initializing

set_option autoImplicit false

namespace PluginHost

def Host.log (h : Host) (entries : List Entry) : Host :=
  { h with journal := h.journal ++ entries.toArray }

theorem Host.log_log (h : Host) (entries more : List Entry) :
    (h.log entries).log more = h.log (entries ++ more) := by
  simp [log]

theorem Host.tell_eq_log (h : Host) (origin : Origin) (level : Level) (message : String)
    (fields : List (String × FieldValue)) :
    h.tell origin level message fields = h.log [.event (origin.event level message fields)] := by
  simp [log, tell, say]

def Ensemble.log (e : Ensemble) (entries : List Entry) : Ensemble :=
  { e with host := e.host.log entries }

theorem Ensemble.log_nil (e : Ensemble) : e.log [] = e := by
  simp [log, Host.log]

theorem Ensemble.log_log (e : Ensemble) (entries more : List Entry) :
    (e.log entries).log more = e.log (entries ++ more) := by
  simp [log, Host.log_log]

def OptionSpec.report (spec : OptionSpec) : Entry :=
  .event (Origin.options.event .warn "Option declared twice, keeping first declaration"
    [("option", .text spec.name), ("owner", .text (Text.quotedOption spec.owner))])

namespace Application

def log (a : Application) (entries : List Entry) : Application :=
  { a with ensemble := a.ensemble.log entries }

def optionWarning (message name : String) : Entry :=
  .event (Origin.application.event .warn message [("option", .text name)])

/-- The application once it has the plugins that every application gets. -/
def equipped (a : Application) : Application := (applyRegistered a).2

variable {dispatch : Dispatch} {a : Application}

theorem log_log (a : Application) (entries more : List Entry) :
    (a.log entries).log more = a.log (entries ++ more) := by
  simp [log, Ensemble.log_log]

theorem tell_eq_log (level : Level) (message : String) (fields : List (String × FieldValue))
    (a : Application) :
    tell level message fields a =
      (.returned (), a.log [.event (Origin.application.event level message fields)]) := by
  simp [tell, onHost, onEnsemble, Ensemble.onHost, Act.within, Host.tell_eq_log, log, Ensemble.log]

theorem registerTypes_returned (types : List String) (a : Application) :
    (registerTypes types a).1 = .returned () := by
  induction types generalizing a with
  | nil => rfl
  | cons type rest ih =>
    rw [registerTypes]
    exact ih (registerType type a).2

theorem applyRegistered_returned (a : Application) : (applyRegistered a).1 = .returned () := by
  rw [applyRegistered, Act.bind_of_returned (a := a) rfl]
  split
  · rfl
  · have returned := registerTypes_returned a.registered a
    exact congrArg Prod.fst (Act.bind_of_returned returned)

theorem reportRepeated_eq (late : List OptionSpec) (h : Host) :
    reportRepeated (late.map OptionSpec.repetition) h = h.log (late.map OptionSpec.report) := by
  induction late generalizing h with
  | nil => simp [reportRepeated, Host.log]
  | cons spec rest ih =>
    rw [List.map_cons, reportRepeated, ih, Host.tell_eq_log, Host.log_log]
    rfl

theorem warnOptions_eq (message : String) (names : List String) (a : Application) :
    warnOptions message names a = (.returned (), a.log (names.map (optionWarning message))) := by
  induction names generalizing a with
  | nil => simp [warnOptions, log, Ensemble.log, Host.log]
  | cons name rest ih =>
    rw [warnOptions, Act.bind_of_returned (by rw [tell_eq_log]), tell_eq_log, ih, log_log]
    rfl

/-- Collecting the options reports every declaration that came too late once, and changes nothing
else. -/
theorem optionsSchema_eq {late : List OptionSpec}
    (reported : (a.equipped.lifecycle.registry.declareOptions .empty).2 =
      late.map OptionSpec.repetition) :
    optionsSchema a = (.returned (a.equipped.lifecycle.registry.declareOptions .empty).1,
      a.equipped.log (late.map OptionSpec.report)) := by
  rw [optionsSchema, Act.bind_of_returned (applyRegistered_returned a),
    Act.bind_of_returned (a := a.equipped.lifecycle.registry.declareOptions .empty) rfl]
  simp only [reported, Act.bind_apply, onHost, onEnsemble, Ensemble.onHost, Act.within,
    Act.look_apply, Act.modify_apply, Act.pure_apply, reportRepeated_eq]
  rfl

/-- The application itself says all this. -/
def OwnWords (told : List Entry) : Prop :=
  ∀ entry ∈ told, ∃ level message fields,
    entry = .event (Origin.application.event level message fields)

theorem OwnWords.nil : OwnWords [] := by simp [OwnWords]

theorem OwnWords.add {told : List Entry} (own : OwnWords told) (level : Level) (message : String)
    (fields : List (String × FieldValue)) :
    OwnWords (told ++ [.event (Origin.application.event level message fields)]) := by
  intro entry member
  rcases List.mem_append.1 member with old | new
  · exact own entry old
  · exact ⟨level, message, fields, List.mem_singleton.1 new⟩

/-- Plugins are called with the same options, whatever name brought them up. -/
theorem setUpAll_called (dispatch : Dispatch) (seen : Options) (names : List String)
    (a : Application) :
    ((setUpAll dispatch seen names a).1 = .stalled ∧ ∃ replies,
      Ensemble.Endless dispatch (.settingUp seen) a.ensemble replies
        (setUpAll dispatch seen names a).2.ensemble) ∨
    ∃ result replies e told, (setUpAll dispatch seen names a).1 = .returned result ∧
      Ensemble.Called dispatch (.settingUp seen) a.ensemble replies e ∧
      (setUpAll dispatch seen names a).2.ensemble = e.log told ∧ OwnWords told := by
  induction names generalizing a with
  | nil =>
    exact .inr ⟨.ok (), [], a.ensemble, [], rfl, .refl _, (Ensemble.log_nil _).symm, .nil⟩
  | cons name rest ih =>
    rw [setUpAll]
    rcases Ensemble.setUp_called dispatch name seen a.ensemble with
      ⟨stalled, replies, endless⟩ | ⟨result, replies, returned, called⟩
    · have never : (onEnsemble (Ensemble.setUp dispatch name seen) a).1 = .stalled := stalled
      obtain ⟨stalled, kept⟩ := Act.bind_stalled never _
      rw [kept]
      exact .inl ⟨stalled, replies, endless⟩
    · have first : (onEnsemble (Ensemble.setUp dispatch name seen) a).1 = .returned result :=
        returned
      rw [Act.bind_of_returned first]
      cases result with
      | error failure =>
        dsimp only
        rw [Act.bind_of_returned (by rw [tell_eq_log]), tell_eq_log]
        exact .inr ⟨_, replies, _, _, rfl, called, rfl, OwnWords.nil.add _ _ _⟩
      | ok _ =>
        rcases ih (onEnsemble (Ensemble.setUp dispatch name seen) a).2 with
          ⟨stalled, later, endless⟩ | ⟨result, later, e, told, returned, others, left, own⟩
        · exact .inl ⟨stalled, _, called.endless endless⟩
        · exact .inr ⟨result, _, e, told, returned, called.trans others, left, own⟩

/-- What plugins find when they are set up: the plugins that every application gets, and warnings of
what was declared too late, set without need, or set for nobody. -/
def readied (a : Application) (schema : Schema) (late : List OptionSpec) (options : Options) :
    Ensemble :=
  a.equipped.ensemble.log (late.map OptionSpec.report ++
    (schema.redundantDefaults options).map
      (optionWarning "Option is explicitly set to its default value") ++
    (schema.undeclared options).map (optionWarning "Option is not declared by any plugin"))

def reportSetUp : Except Failure Unit → Act Application (Except Failure Unit)
  | .error e => pure (.error e)
  | .ok _ => do
    let l ← Act.look lifecycle
    tell .info "Plugins initialized" [("plugins", .text (Text.quotedList l.initializedNames))]
    pure (.ok ())

/-- The options are collected, warned of, and put in place before plugins are set up. -/
theorem setUp_readied (dispatch : Dispatch) (names : List String) (options : Options)
    {late : List OptionSpec}
    (reported : (a.equipped.lifecycle.registry.declareOptions .empty).2 =
      late.map OptionSpec.repetition) :
    let schema := (a.equipped.lifecycle.registry.declareOptions .empty).1
    let seen := schema.applyDefaults options
    setUp dispatch names options a = (setUpAll dispatch seen names >>= reportSetUp)
      { a.equipped with ensemble := a.readied schema late options, options := seen } := by
  intro schema seen
  have collected : optionsSchema a = (.returned schema, _) := optionsSchema_eq reported
  rw [setUp, Act.bind_of_returned (by rw [collected]), collected]
  rw [Act.bind_of_returned (by rw [warnOptions_eq]), warnOptions_eq, log_log]
  rw [Act.bind_of_returned (by rw [warnOptions_eq]), warnOptions_eq, log_log]
  dsimp only
  rw [Act.bind_of_returned (a := ()) rfl]
  refine congrFun (congrArg _ (funext fun result => ?_)) _
  cases result <;> rfl

/-- Of every option name the first declaration in the order of registration counts. Collecting the
options reports each other declaration once and does nothing else. Whoever is called to set up sees
what is set, null included; what is not set has the default of the declaration that counts, if that
has one. -/
theorem setUp_sees (dispatch : Dispatch) (names : List String) (options : Options)
    (a : Application) :
    ∃ schema late seen, Resolves a.equipped.lifecycle.registry.declared schema.specs late ∧
      optionsSchema a = (.returned schema, a.equipped.log (late.map OptionSpec.report)) ∧
      (∀ key, seen.value? key = (options.value? key).or
        ((firstNamed key a.equipped.lifecycle.registry.declared).bind OptionSpec.default)) ∧
      (((setUp dispatch names options a).1 = .stalled ∧ ∃ replies,
        Ensemble.Endless dispatch (.settingUp seen) (a.readied schema late options) replies
          (setUp dispatch names options a).2.ensemble) ∨
      ∃ result replies e told, (setUp dispatch names options a).1 = .returned result ∧
        Ensemble.Called dispatch (.settingUp seen) (a.readied schema late options) replies e ∧
        (setUp dispatch names options a).2.ensemble = e.log told ∧ OwnWords told) := by
  obtain ⟨late, resolves, reported⟩ := a.equipped.lifecycle.registry.declareOptions_resolves
  have collected := optionsSchema_eq reported
  have readied := setUp_readied dispatch names options reported
  generalize (a.equipped.lifecycle.registry.declareOptions .empty).1 = schema
    at resolves collected readied
  refine ⟨schema, late, schema.applyDefaults options, resolves, collected, fun key => ?_, ?_⟩
  · rw [Schema.applyDefaults_value? resolves.once, resolves.first]
  · rw [readied]
    dsimp only
    generalize merged : ({ a.equipped with ensemble := _, options := _ } : Application) = b
    have ready : b.ensemble = a.readied schema late options := by rw [← merged]
    rw [← ready]
    rcases setUpAll_called dispatch (schema.applyDefaults options) names b with
      ⟨stalled, endless⟩ | ⟨result, replies, e, told, returned, called, left, own⟩
    · obtain ⟨stalled, kept⟩ := Act.bind_stalled stalled _
      rw [kept]
      exact .inl ⟨stalled, endless⟩
    · rw [Act.bind_of_returned returned]
      cases result with
      | error failure => exact .inr ⟨_, replies, e, told, rfl, called, left, own⟩
      | ok _ =>
        rw [reportSetUp, Act.bind_of_returned (a := lifecycle _) rfl,
          Act.bind_of_returned (by rw [tell_eq_log]), tell_eq_log]
        exact .inr ⟨_, replies, e, _, rfl, called,
          (congrArg (Ensemble.log · _) left).trans (Ensemble.log_log e told _), own.add _ _ _⟩

end Application

end PluginHost
