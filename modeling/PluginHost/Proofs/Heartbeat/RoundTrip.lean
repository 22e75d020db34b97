import PluginHost.Heartbeat.Heartbeat
import PluginHost.Proofs.Codec.RoundTrip
import PluginHost.Proofs.Time.Rendering

set_option autoImplicit false

namespace PluginHost

open Codec

namespace Codec

theorem roundTrips_instant {i : Time.Instant} (proper : i.Proper)
    (years : -262143 ≤ (Time.Date.ofDays i.day).year ∧ (Time.Date.ofDays i.day).year ≤ 262142) :
    Codec.instant.RoundTrips i := by
  apply roundTrips_text
  rw [Time.parse_render proper years]
  rfl

theorem stable_instant : Codec.instant.Stable := by
  apply stable_text
  intro text i came
  cases result : Time.parse text with
  | error fault =>
    rw [result] at came
    cases came
  | ok j =>
    rw [result] at came
    cases came
    rw [Time.parse_render_of_parse result]
    rfl

end Codec

namespace Beat

/-- The number fits a word, and the instant is one of the calendar's years. -/
structure Fits (b : Beat) : Prop where
  seq : b.seq ≤ Number.maxWord
  proper : b.at_.Proper
  years : -262143 ≤ (Time.Date.ofDays b.at_.day).year ∧
    (Time.Date.ofDays b.at_.day).year ≤ 262142

theorem roundTrips {b : Beat} (fits : b.Fits) : codec.RoundTrips b := by
  refine roundTrips_via (roundTrips_record (by decide) ?_) rfl
  exact ⟨roundTrips_natural fits.seq, roundTrips_instant fits.proper fits.years, trivial⟩

theorem stable : codec.Stable := by
  refine stable_via (stable_record (by decide) ?_) fun _ _ _ => rfl
  exact ⟨stable_natural _ _, by rintro n ⟨⟩, stable_instant, by rintro i ⟨⟩, trivial⟩

/-- Every beat whose number fits a word and whose instant is in the calendar is read again from
what is written of it, to the nanosecond. So is every beat that was read, whatever the offset of
its zone and however many digits its seconds had. -/
theorem reads_back :
    (∀ b : Beat, b.Fits → read codec (write codec b) = .ok b) ∧
      (∀ j b, read codec j = .ok b → read codec (write codec b) = .ok b) ∧
      ∀ j k, normalize codec j = .ok k → normalize codec k = .ok k :=
  ⟨fun _ => roundTrips, stable, fun _ _ => stable.normalize⟩

/-- The leap second that ends the last day of the year 9999; and an instant that its offset moves
from a leap day to the day after, with one more digit than is kept. -/
theorem reads_back_at_ends :
    let b : Beat := ⟨Number.maxWord, (Time.Date.mk 9999 12 31).toDays, 86399, 1999999999⟩
    let j : Json := .object
      [("at", .string "2024-02-29T23:30:00.1234567891-00:45"), ("seq", .int 7)]
    let c : Beat := ⟨7, (Time.Date.mk 2024 3 1).toDays, 900, 123456789⟩
    b.Fits ∧ read codec (write codec b) = .ok b ∧ read codec j = .ok c ∧
      read codec (write codec c) = .ok c ∧
      normalize codec (write codec c) = .ok (write codec c) := by
  intro b j c
  have fits : b.Fits := ⟨by decide, ⟨by decide, by decide⟩, by decide⟩
  have stamped : Time.stamp "2024-02-29T23:30:00.1234567891-00:45".toList =
      .ok (⟨⟨2024, 2, 29⟩, 84600, 123456789, -2700⟩, []) := by rfl
  have parsed : Time.parse "2024-02-29T23:30:00.1234567891-00:45" = .ok c.at_ := by
    unfold Time.parse
    rw [stamped]
    rfl
  have at_ : read Codec.instant (.string "2024-02-29T23:30:00.1234567891-00:45") = .ok c.at_ := by
    simp only [Codec.instant, Codec.read, readText, parsed]
    rfl
  have seq : read Codec.word (.int 7) = .ok c.seq := rfl
  have came : read codec j = .ok c := by
    simp [codec, j, Codec.read, checkMembers, checkMember, readMembers, Members.find?, at_, seq,
      Except.map]
  have normal : normalize codec j = .ok (write codec c) := by
    unfold Codec.normalize
    rw [came]
    rfl
  exact ⟨fits, reads_back.1 b fits, came, reads_back.2.1 j c came, reads_back.2.2 j _ normal⟩

end Beat

end PluginHost
