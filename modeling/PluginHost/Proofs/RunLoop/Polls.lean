import Mathlib.Data.ENat.Lattice
import Mathlib.Order.CompletePartialOrder
import PluginHost.Proofs.Leads
import PluginHost.Reactor.Run

set_option autoImplicit false

namespace PluginHost

open Act (Keeps)

namespace Polling

variable {σ : Type}

/-- Polls until nothing makes progress, but no more than a number of times. -/
def pollUpTo (poll : Act σ Bool) : Nat → Act σ Nat
  | 0 => pure 0
  | limit + 1 => do
    if ← poll then
      let later ← pollUpTo poll limit
      pure (later + 1)
    else pure 0

def counted (poll : Act σ Bool) : Act (σ × Nat) Bool := fun s =>
  ((poll s.1).1, (poll s.1).2, s.2 + 1)

def pollsMade (poll : Act σ Bool) (limit : Nat) (s : σ) : Nat :=
  (pollUpTo (counted poll) limit (s, 0)).2.2

/-- So many polls in a row make progress. -/
def Progresses (poll : Act σ Bool) : Nat → σ → Prop
  | 0, _ => True
  | n + 1, s => (poll s).1 = .returned true ∧ Progresses poll n (poll s).2

/-- How many polls in a row make progress before one does not. There may be no end of them. -/
noncomputable def productivePolls (poll : Act σ Bool) (s : σ) : ℕ∞ :=
  ⨆ n : { n // Progresses poll n s }, (n.1 : ℕ∞)

/-- What a batch comes to that answers with a number. -/
structure Batch (poll : Act σ Bool) (limit : Nat) (s : σ) (n : Nat) : Prop where
  answer : (n : ℕ∞) = min (limit : ℕ∞) (productivePolls poll s)
  polls : pollsMade poll limit s = if n < limit then n + 1 else limit

variable {poll : Act σ Bool} {s : σ}

theorem Progresses.of_le {m n : Nat} (less : m ≤ n) (progresses : Progresses poll n s) :
    Progresses poll m s := by
  induction m generalizing n s with
  | zero => trivial
  | succ m ih =>
    obtain ⟨n, rfl⟩ := Nat.exists_eq_succ_of_ne_zero (Nat.ne_of_gt (Nat.zero_lt_of_lt less))
    exact ⟨progresses.1, ih (Nat.le_of_succ_le_succ less) progresses.2⟩

theorem le_productivePolls {n : Nat} : (n : ℕ∞) ≤ productivePolls poll s ↔ Progresses poll n s := by
  constructor
  · intro le
    by_contra stops
    -- whatever progresses is shorter, so the supremum is
    have short (m : { m // Progresses poll m s }) : (m.1 : ℕ∞) ≤ ((n - 1 : Nat) : ℕ∞) := by
      have less : m.1 < n := Nat.lt_of_not_le fun more => stops (m.2.of_le more)
      exact_mod_cast Nat.le_sub_one_of_lt less
    have bound : n ≤ n - 1 := by exact_mod_cast le.trans (iSup_le short)
    have zero : n = 0 := by omega
    subst zero
    exact stops trivial
  · intro progresses
    exact le_iSup (fun m : { m // Progresses poll m s } => (m.1 : ℕ∞)) ⟨n, progresses⟩

theorem pollUpTo_succ (poll : Act σ Bool) (limit : Nat) (s : σ) :
    pollUpTo poll (limit + 1) s =
      match poll s with
      | (.returned true, t) => ((pollUpTo poll limit t).1.map (· + 1), (pollUpTo poll limit t).2)
      | (.returned false, t) => (.returned 0, t)
      | (.unwound payload, t) => (.unwound payload, t)
      | (.stalled, t) => (.stalled, t) := by
  rw [pollUpTo, Act.bind_apply]
  rcases poll s with ⟨flow, t⟩
  cases flow with
  | returned progressed =>
    cases progressed with
    | true => exact Act.map_apply (· + 1) (pollUpTo poll limit) t
    | false => rfl
  | unwound | stalled => rfl

/-- Counting changes nothing but the count, and goes on from any number. -/
theorem pollUpTo_counted (limit : Nat) (s : σ) (made : Nat) :
    pollUpTo (counted poll) limit (s, made) =
      ((pollUpTo poll limit s).1, (pollUpTo poll limit s).2, made + pollsMade poll limit s) := by
  induction limit generalizing s made with
  | zero => rfl
  | succ limit ih =>
    rw [pollsMade, pollUpTo_succ, pollUpTo_succ, pollUpTo_succ]
    simp only [counted]
    rcases poll s with ⟨flow, t⟩
    cases flow with
    | returned progressed =>
      cases progressed with
      | true => simp only [ih, Nat.add_assoc, Nat.zero_add]
      | false => simp only [Nat.zero_add]
    | unwound | stalled => simp only [Nat.zero_add]

theorem pollsMade_succ_of_progress {limit : Nat} (progressed : (poll s).1 = .returned true) :
    pollsMade poll (limit + 1) s = pollsMade poll limit (poll s).2 + 1 := by
  rw [pollsMade, pollUpTo_succ]
  simp only [counted]
  generalize poll s = x at progressed
  obtain ⟨flow, t⟩ := x
  cases progressed
  simp only [pollUpTo_counted, Nat.add_comm 1, Nat.zero_add]

theorem pollsMade_succ_of_not {limit : Nat} (stops : (poll s).1 ≠ .returned true) :
    pollsMade poll (limit + 1) s = 1 := by
  rw [pollsMade, pollUpTo_succ]
  simp only [counted]
  generalize poll s = x at stops
  obtain ⟨flow, t⟩ := x
  cases flow with
  | returned progressed =>
    cases progressed with
    | true => exact absurd rfl stops
    | false => rfl
  | unwound | stalled => rfl

/-- However it ends, a batch makes no more polls than the limit. -/
theorem pollsMade_le (limit : Nat) (s : σ) : pollsMade poll limit s ≤ limit := by
  induction limit generalizing s with
  | zero => exact Nat.le_refl 0
  | succ limit ih =>
    by_cases progressed : (poll s).1 = .returned true
    · rw [pollsMade_succ_of_progress progressed]
      exact Nat.succ_le_succ (ih _)
    · rw [pollsMade_succ_of_not progressed]
      exact Nat.succ_le_succ (Nat.zero_le limit)

theorem pollUpTo_succ_returned {limit n : Nat}
    (returned : (pollUpTo poll (limit + 1) s).1 = .returned n) :
    (∃ k, (poll s).1 = .returned true ∧ (pollUpTo poll limit (poll s).2).1 = .returned k ∧
      n = k + 1) ∨ (poll s).1 = .returned false ∧ n = 0 := by
  rw [pollUpTo] at returned
  obtain ⟨progressed, polled, same⟩ := Act.returned_of_bind returned
  rw [same] at returned
  cases progressed with
  | false =>
    cases returned
    exact .inr ⟨polled, rfl⟩
  | true =>
    obtain ⟨k, later, same⟩ := Act.returned_of_bind returned
    simp only [if_true] at returned
    rw [same] at returned
    cases returned
    exact .inl ⟨k, polled, later, rfl⟩

/-- A batch that answers has found so much progress, and none after it unless the limit was
reached. -/
theorem pollUpTo_returned {limit n : Nat} (returned : (pollUpTo poll limit s).1 = .returned n) :
    n ≤ limit ∧ Progresses poll n s ∧ (n < limit → ¬ Progresses poll (n + 1) s) ∧
      pollsMade poll limit s = if n < limit then n + 1 else limit := by
  induction limit generalizing s n with
  | zero =>
    cases returned
    exact ⟨Nat.le_refl 0, trivial, nofun, rfl⟩
  | succ limit ih =>
    rcases pollUpTo_succ_returned returned with ⟨k, progressed, later, rfl⟩ | ⟨stops, rfl⟩
    · obtain ⟨le, progresses, ends, polls⟩ := ih later
      refine ⟨Nat.succ_le_succ le, ⟨progressed, progresses⟩, fun less more => ?_, ?_⟩
      · exact ends (Nat.lt_of_succ_lt_succ less) more.2
      · rw [pollsMade_succ_of_progress progressed, polls]
        split <;> split <;> omega
    · have other : (poll s).1 ≠ .returned true := by
        rw [stops]
        exact nofun
      refine ⟨Nat.zero_le _, trivial, fun _ more => other more.1, ?_⟩
      rw [pollsMade_succ_of_not other, if_pos (Nat.succ_pos limit)]

/-- A batch that answers is right about the progress, and makes one more poll than it answers if it
has not reached the limit. -/
theorem batch_of_returned {limit n : Nat} (returned : (pollUpTo poll limit s).1 = .returned n) :
    Batch poll limit s n := by
  obtain ⟨le, progresses, ends, polls⟩ := pollUpTo_returned returned
  refine ⟨le_antisymm (le_min (by exact_mod_cast le) (le_productivePolls.2 progresses)) ?_, polls⟩
  rcases Nat.eq_or_lt_of_le le with reached | less
  · exact (min_le_left _ _).trans (by rw [reached])
  · have short : productivePolls poll s < ((n + 1 : Nat) : ℕ∞) :=
      lt_of_not_ge fun more => ends less (le_productivePolls.1 more)
    rw [Nat.cast_succ] at short
    exact (min_le_right _ _).trans (Order.le_of_lt_add_one short)

/-- Where every poll returns and keeps a property, so does a batch. -/
theorem pollUpTo_returns {P : σ → Prop}
    (returns : ∀ s, P s → ∃ progressed, (poll s).1 = .returned progressed ∧ P (poll s).2)
    (limit : Nat) {s : σ} (holds : P s) :
    ∃ n, (pollUpTo poll limit s).1 = .returned n ∧ P (pollUpTo poll limit s).2 := by
  induction limit generalizing s with
  | zero => exact ⟨0, rfl, holds⟩
  | succ limit ih =>
    obtain ⟨progressed, polled, kept⟩ := returns s holds
    rw [pollUpTo, Act.bind_of_returned polled]
    cases progressed with
    | false => exact ⟨0, rfl, kept⟩
    | true =>
      obtain ⟨k, later, kept⟩ := ih kept
      simp only [if_true]
      rw [Act.bind_of_returned later]
      exact ⟨k + 1, rfl, kept⟩

/-- A reactor that always answers polls answers batches of them. -/
theorem batch_of_step (poll : σ → Bool × σ) (limit : Nat) (s : σ) :
    ∃ n, (pollUpTo (Act.step poll) limit s).1 = .returned n ∧ Batch (Act.step poll) limit s n := by
  have returns (s : σ) (_ : True) :
      ∃ progressed, (Act.step poll s).1 = .returned progressed ∧ True :=
    ⟨(poll s).1, rfl, trivial⟩
  obtain ⟨n, returned, _⟩ := pollUpTo_returns returns limit (s := s) trivial
  exact ⟨n, returned, batch_of_returned returned⟩

/-- Two of the polls make progress: a third one finds that out, unless there may be two only. -/
example :
    let poll : Act Nat Bool := Act.step fun done => (decide (done < 5), done + 1)
    (pollUpTo poll 8 3 = (.returned 2, 6) ∧ pollsMade poll 8 3 = 3) ∧
      pollUpTo poll 2 3 = (.returned 2, 5) ∧ pollsMade poll 2 3 = 2 := by
  decide

/-- What a poll keeps, if it ends, a batch keeps. -/
theorem pollUpTo_keeps {P : σ → Prop} (keeps : Keeps P poll) (limit : Nat) :
    Keeps P (pollUpTo poll limit) := by
  induction limit with
  | zero => exact .pure 0
  | succ limit ih =>
    refine keeps.andThen fun progressed => ?_
    cases progressed with
    | false => exact .pure 0
    | true => exact ih.andThen fun _ => .pure _

end Polling

namespace Host

open Polling

/-- The host polls its reactor in such batches. -/
theorem pollBatch_eq_pollUpTo (dispatch : Dispatch) (limit : Nat) :
    pollBatch dispatch limit = pollUpTo (pollOnce dispatch) limit := by
  induction limit with
  | zero => rfl
  | succ limit ih =>
    rw [pollBatch, pollUpTo, ih]

end Host

end PluginHost
