import PluginHost.Config.Basic
import PluginHost.Proofs.Codec.RoundTrip

set_option autoImplicit false

namespace PluginHost

open Codec

namespace Codec

theorem roundTrips_count {n : Nat} (fits : n ≤ Number.maxWord) : Codec.count.RoundTrips n :=
  roundTrips_natural fits

theorem stable_count : Codec.count.Stable := stable_natural _ _

end Codec

theorem LogFormat.roundTrips (f : LogFormat) : codec.RoundTrips f :=
  roundTrips_choice (by cases f <;> rfl)

theorem PolicyChoice.roundTrips (p : PolicyChoice) : codec.RoundTrips p :=
  roundTrips_choice (by cases p <;> rfl)

namespace LoggingConfig

theorem roundTrips (c : LoggingConfig) : codec.RoundTrips c := by
  refine roundTrips_via (roundTrips_record (by decide) ?_) rfl
  exact ⟨roundTrips_string _, LogFormat.roundTrips _, roundTrips_bool _, trivial⟩

end LoggingConfig

namespace ExecutorConfig

/-- The counts fit a word. -/
structure Fits (c : ExecutorConfig) : Prop where
  pollBatch : c.pollBatch ≤ Number.maxWord
  extraQueues : c.extraQueues ≤ Number.maxWord

theorem roundTrips {c : ExecutorConfig} (fits : c.Fits) : codec.RoundTrips c := by
  refine roundTrips_via (roundTrips_record (by decide) ?_) rfl
  exact ⟨roundTrips_count fits.pollBatch, PolicyChoice.roundTrips _,
    roundTrips_count fits.extraQueues, trivial⟩

theorem stable : codec.Stable := by
  refine stable_via (stable_record (by decide) ?_) fun _ _ _ => rfl
  refine ⟨stable_count, ?_, .of_all PolicyChoice.roundTrips, fun p _ => PolicyChoice.roundTrips p,
    stable_count, ?_, trivial⟩
  · rintro n ⟨⟩
    exact roundTrips_count (by decide)
  · rintro n ⟨⟩
    exact roundTrips_count (by decide)

end ExecutorConfig

theorem PluginsConfig.roundTrips (c : PluginsConfig) : codec.RoundTrips c := by
  refine roundTrips_via (roundTrips_record (by decide) ⟨?_, trivial⟩) rfl
  exact roundTrips_list fun name _ => roundTrips_string name

/-- Options are in order already, so writing them as a table keeps them. -/
theorem Options.roundTrips (o : Options) : codec.RoundTrips o := by
  refine roundTrips_via (roundTrips_table fun m _ => roundTrips_any m.2) ?_
  exact Options.ext (Members.ofList_of_ascending o.ascending)

namespace Config

theorem roundTrips {c : Config} (fits : c.executor.Fits) : codec.RoundTrips c := by
  refine roundTrips_via (roundTrips_record (by decide) ?_) rfl
  exact ⟨LoggingConfig.roundTrips _, ExecutorConfig.roundTrips fits, PluginsConfig.roundTrips _,
    Options.roundTrips _, trivial⟩

theorem stable : codec.Stable := by
  refine stable_via (stable_record (by decide) ?_) fun _ _ _ => rfl
  refine ⟨.of_all LoggingConfig.roundTrips, fun c _ => LoggingConfig.roundTrips c,
    ExecutorConfig.stable, ?_, .of_all PluginsConfig.roundTrips,
    fun c _ => PluginsConfig.roundTrips c, .of_all Options.roundTrips,
    fun o _ => Options.roundTrips o, trivial⟩
  rintro c ⟨⟩
  exact ExecutorConfig.roundTrips ⟨by decide, by decide⟩

/-- Every configuration whose counts fit a word is read again from what is written of it. So is
every configuration that was read from any value, however much of it was missing or in excess: the
value with its defaults filled in stays as it is when they are filled in again. -/
theorem read_write :
    (∀ c : Config, c.executor.Fits → Codec.read codec (Codec.write codec c) = .ok c) ∧
      (∀ j c, Codec.read codec j = .ok c → Codec.read codec (Codec.write codec c) = .ok c) ∧
      ∀ j k, normalize codec j = .ok k → normalize codec k = .ok k :=
  ⟨fun _ => roundTrips, stable, fun _ _ => stable.normalize⟩

/-- Counts as great as they can be; and a section as a list that is too short, a section with one
member, and a member that no section has. -/
theorem read_write_of_partial :
    let c : Config :=
      { logging := { level := "\"quoted\"", format := .json }
        executor := { pollBatch := Number.maxWord, extraQueues := Number.maxWord }
        plugins := { enabled := ["b", "a", "b"] } }
    let j : Json := .object
      [("executor", .array [.int 0, .object [("highest_priority", .null)]]),
        ("logging", .object [("level", .string "TRUE")]),
        ("options", .object [("limits", .array [.float 0.5, .null])]), ("unknown", .bool true)]
    let d : Config :=
      { logging := { level := "TRUE" }
        executor := { pollBatch := 0, policy := .highestPriority }
        options := .ofMembers [("limits", .array [.float 0.5, .null])] }
    c.executor.Fits ∧ Codec.read codec (Codec.write codec c) = .ok c ∧
      Codec.read codec j = .ok d ∧ Codec.read codec (Codec.write codec d) = .ok d ∧
      normalize codec (Codec.write codec d) = .ok (Codec.write codec d) := by
  intro c j d
  have fits : c.executor.Fits := ⟨by decide, by decide⟩
  have came : Codec.read codec j = .ok d := rfl
  have normal : normalize codec j = .ok (Codec.write codec d) := rfl
  exact ⟨fits, read_write.1 c fits, came, read_write.2.1 j d came, read_write.2.2 j _ normal⟩

end Config

end PluginHost
