import Mathlib.Data.ENat.Lattice
import Overlay.Retry

/-!
# How often a call is tried

A call is tried again while nobody answers in time or a gateway answers that it could not go on, and
as often as the policy allows. So it is tried until the first outcome that is neither
(`RetryPolicy.firstFinal`), unless the policy allows less, and it ends as its last attempt does
(`RetryPolicy.tries_exactly`).

The policy counts the attempts that are left. A loop that counts those it has made, in 32 bits,
makes the same attempts (`RetryPolicy.turn`): the policy gives the number of attempts in 32 bits,
the loop looks no further than that, and so its counter does not overflow. Which attempt is the last
one (`RetryPolicy.LastAttempt`) does not depend on how they are counted.
-/

namespace Overlay

namespace RetryPolicy

variable {σ ρ : Type} {status : ρ → Nat} {outcomes : ℕ → Except TransportFault ρ} {left n : ℕ}

/-! ## The last attempt -/

/-- The outcome ends the attempts. It is neither the response of a gateway that could not go on, nor
that nobody has answered in time. -/
def IsFinal (status : ρ → Nat) : Except TransportFault ρ → Prop
  | .ok response => status response ≠ 502 ∧ status response ≠ 503 ∧ status response ≠ 504
  | .error fault => ∀ url, fault ≠ .unreachable url

theorem isPassing_eq_false_iff {outcome : Except TransportFault ρ} :
    isPassing status outcome = false ↔ IsFinal status outcome := by
  cases outcome with
  | ok response => simp [isPassing, isRetryable, IsFinal, and_assoc]
  | error fault => cases fault <;> simp [isPassing, IsFinal]

theorem isPassing_iff {outcome : Except TransportFault ρ} :
    isPassing status outcome = true ↔ ¬ IsFinal status outcome := by
  rw [← isPassing_eq_false_iff, Bool.not_eq_false]

/-- The position of the first final outcome, counted from one, and infinite if there is none. -/
noncomputable def firstFinal (status : ρ → Nat) (outcomes : ℕ → Except TransportFault ρ) : ℕ∞ :=
  ⨅ (i : ℕ) (_ : IsFinal status (outcomes i)), ((i + 1 : ℕ) : ℕ∞)

/-- With so many attempts left after the first one, attempt `n` is the last, counted from zero. -/
structure LastAttempt (status : ρ → Nat) (outcomes : ℕ → Except TransportFault ρ) (left n : ℕ) :
    Prop where
  le : n ≤ left
  passing : ∀ i < n, ¬ IsFinal status (outcomes i)
  final : n < left → IsFinal status (outcomes n)

/-- The last attempt is that of the first final outcome, or the last one that is allowed. -/
theorem LastAttempt.eq_min (h : LastAttempt status outcomes left n) :
    ((n + 1 : ℕ) : ℕ∞) = min ((left + 1 : ℕ) : ℕ∞) (firstFinal status outcomes) := by
  refine le_antisymm (le_min ?_ ?_) ?_
  · exact Nat.cast_le.2 (Nat.succ_le_succ h.le)
  · refine le_iInf₂ fun i hi => Nat.cast_le.2 (Nat.succ_le_succ ?_)
    exact not_lt.1 fun hlt => h.passing i hlt hi
  · rcases h.le.lt_or_eq with hlt | rfl
    · exact (min_le_right _ _).trans (iInf₂_le n (h.final hlt))
    · exact min_le_left _ _

/-! ## Attempts that are left -/

/-- What the attempts give when an action is tried again and again. -/
def outcomesOf (try_ : Action σ TransportFault ρ) (s : σ) (i : ℕ) : Except TransportFault ρ :=
  try_.result (try_.after^[i] s)

/-- **Attempts.** Whatever an action does, it is tried up to the last attempt. -/
theorem sendLeft_last (status : ρ → Nat) (try_ : Action σ TransportFault ρ) (left : ℕ) (s : σ) :
    ∃ n, LastAttempt status (outcomesOf try_ s) left n ∧
      sendLeft status try_ left s = (outcomesOf try_ s n, try_.after^[n + 1] s) := by
  induction left generalizing s with
  | zero => exact ⟨0, ⟨le_rfl, nofun, nofun⟩, rfl⟩
  | succ left ih =>
    have hattempt : (try_.attempt : Action σ TransportFault _) s =
        (.ok (try_.result s), try_.after s) := rfl
    rw [sendLeft, Action.bind_of_ok hattempt]
    by_cases hfinal : IsFinal status (try_.result s)
    · refine ⟨0, ⟨Nat.zero_le _, nofun, fun _ => hfinal⟩, ?_⟩
      rw [if_neg fun hpassing => isPassing_iff.1 hpassing hfinal]
      rfl
    · obtain ⟨n, hlast, hrest⟩ := ih (try_.after s)
      refine ⟨n + 1, ⟨Nat.succ_le_succ hlast.le, ?_, fun hlt => ?_⟩, ?_⟩
      · rintro (_ | i) hi
        · exact hfinal
        · exact hlast.passing i (Nat.succ_lt_succ_iff.1 hi)
      · exact hlast.final (Nat.succ_lt_succ_iff.1 hlt)
      · rw [if_pos (isPassing_iff.2 hfinal), hrest]
        rfl

/-! ## Attempts that were made -/

/-- A loop that counts in 32 bits. -/
inductive Loop (σ ρ : Type) where
  /-- The attempt of this number comes next. -/
  | trying (counter : UInt32) (s : σ)
  | returned (outcome : Except TransportFault ρ) (s : σ)
  /-- The counter cannot go on. -/
  | overflown

/-- The number after this one, if 32 bits hold it. -/
def next? (counter : UInt32) : Option UInt32 :=
  if counter.toNat + 1 < 2 ^ 32 then some (counter + 1) else none

/-- One turn of the loop. It goes on while the next number is below the number of attempts, and the
outcome is worth it. -/
def turn (p : RetryPolicy) (status : ρ → Nat) (try_ : Action σ TransportFault ρ) :
    Loop σ ρ → Loop σ ρ
  | .trying counter s =>
    match next? counter with
    | none => .overflown
    | some next =>
      if next.toNat < p.attempts ∧ isPassing status (try_.result s) = true then
        .trying next (try_.after s)
      else .returned (try_.result s) (try_.after s)
  | ended => ended

variable {p : RetryPolicy} {try_ : Action σ TransportFault ρ} {s : σ}

theorem attempts_lt (p : RetryPolicy) : p.attempts < 2 ^ 32 :=
  max_lt p.maxAttempts.toNat_lt (by decide)

theorem attempts_pos (p : RetryPolicy) : 0 < p.attempts :=
  Nat.lt_of_lt_of_le Nat.one_pos (le_max_right _ _)

/-- A number below that of the attempts has a next one. -/
theorem next?_of_lt {counter : UInt32} (h : counter.toNat < p.attempts) :
    next? counter = some (counter + 1) ∧ (counter + 1).toNat = counter.toNat + 1 := by
  have hlt : counter.toNat + 1 < 2 ^ 32 := lt_of_le_of_lt h p.attempts_lt
  refine ⟨if_pos hlt, ?_⟩
  rw [UInt32.toNat_add]
  exact Nat.mod_eq_of_lt hlt

/-- One turn, with the numbers that are counted. -/
theorem turn_trying {counter : UInt32} (h : counter.toNat < p.attempts) :
    p.turn status try_ (.trying counter s) =
      if counter.toNat + 1 < p.attempts ∧ isPassing status (try_.result s) = true then
        .trying (counter + 1) (try_.after s)
      else .returned (try_.result s) (try_.after s) := by
  obtain ⟨hnext, htoNat⟩ := next?_of_lt h
  simp only [turn, hnext, htoNat]

section

variable (h : LastAttempt status (outcomesOf try_ s) (p.attempts - 1) n)
include h

theorem LastAttempt.lt_attempts : n < p.attempts :=
  Nat.lt_of_le_of_lt h.le (Nat.sub_lt p.attempts_pos Nat.one_pos)

/-- Up to the last attempt, the counter is the number of attempts that were made. -/
theorem LastAttempt.trying {i : ℕ} (hi : i ≤ n) : ∃ counter : UInt32, counter.toNat = i ∧
    (p.turn status try_)^[i] (.trying 0 s) = .trying counter (try_.after^[i] s) := by
  induction i with
  | zero => exact ⟨0, rfl, rfl⟩
  | succ i ih =>
    obtain ⟨counter, rfl, hturns⟩ := ih (Nat.le_of_succ_le hi)
    have hmore : counter.toNat + 1 < p.attempts := Nat.lt_of_le_of_lt hi h.lt_attempts
    have hlt : counter.toNat < p.attempts := Nat.lt_of_succ_lt hmore
    have hpassing := isPassing_iff.2 (h.passing counter.toNat hi)
    refine ⟨counter + 1, (next?_of_lt hlt).2, ?_⟩
    rw [Function.iterate_succ_apply', hturns, turn_trying hlt, if_pos ⟨hmore, hpassing⟩,
      Function.iterate_succ_apply']

/-- The loop returns with the last attempt. -/
theorem LastAttempt.returned : (p.turn status try_)^[n + 1] (.trying 0 s) =
    .returned (outcomesOf try_ s n) (try_.after^[n + 1] s) := by
  obtain ⟨counter, rfl, hturns⟩ := h.trying le_rfl
  rw [Function.iterate_succ_apply', hturns, turn_trying h.lt_attempts, if_neg,
    Function.iterate_succ_apply']
  · rfl
  · rintro ⟨hmore, hpassing⟩
    exact isPassing_iff.1 hpassing (h.final (Nat.lt_sub_of_add_lt hmore))

/-- The counter always suffices. -/
theorem LastAttempt.not_overflown (turns : ℕ) :
    (p.turn status try_)^[turns] (.trying 0 s) ≠ .overflown := by
  rcases Nat.lt_or_ge n turns with hlt | hle
  · obtain ⟨more, rfl⟩ := Nat.exists_eq_add_of_le' (Nat.succ_le_of_lt hlt)
    rw [Function.iterate_add_apply, h.returned, Function.iterate_fixed rfl]
    exact nofun
  · obtain ⟨counter, -, hturns⟩ := h.trying hle
    rw [hturns]
    exact nofun

end

/-! ## Outcomes one after the other -/

/-- Attempts with these outcomes. The state is the number of attempts that were made. -/
def tape (outcomes : ℕ → Except TransportFault ρ) : Action ℕ TransportFault ρ :=
  fun made => (outcomes made, made + 1)

theorem iterate_after_tape (outcomes : ℕ → Except TransportFault ρ) (made : ℕ) :
    (tape outcomes).after^[made] 0 = made := by
  induction made with
  | zero => rfl
  | succ made ih => rw [Function.iterate_succ_apply', ih, Action.after, tape]

theorem outcomesOf_tape (outcomes : ℕ → Except TransportFault ρ) :
    outcomesOf (tape outcomes) 0 = outcomes := by
  funext i
  rw [outcomesOf, iterate_after_tape, Action.result, tape]

/-- **Retries.** Whatever comes of the attempts, a call is tried until the first final outcome, or
as often as the policy allows, and ends as its last attempt does. A loop that counts its attempts in
32 bits returns the same after as many turns, and its counter never overflows. -/
theorem tries_exactly (p : RetryPolicy) (status : ρ → Nat)
    (outcomes : ℕ → Except TransportFault ρ) :
    ∃ k : ℕ, 0 < k ∧
      (k : ℕ∞) = min ((max p.maxAttempts.toNat 1 : ℕ) : ℕ∞) (firstFinal status outcomes) ∧
      p.send status (tape outcomes) 0 = (outcomes (k - 1), k) ∧
      (p.turn status (tape outcomes))^[k] (.trying 0 0) = .returned (outcomes (k - 1)) k ∧
      (∀ made < k, ∃ counter : UInt32, counter.toNat = made ∧
        (p.turn status (tape outcomes))^[made] (.trying 0 0) = .trying counter made) ∧
      ∀ turns, (p.turn status (tape outcomes))^[turns] (.trying 0 0) ≠ .overflown := by
  obtain ⟨n, hlast, hsend⟩ := sendLeft_last status (tape outcomes) (p.attempts - 1) 0
  have hreturned := hlast.returned
  rw [iterate_after_tape, outcomesOf_tape] at hsend hreturned
  refine ⟨n + 1, n.succ_pos, ?_, hsend, hreturned, fun made hmade => ?_, hlast.not_overflown⟩
  · have hmin := hlast.eq_min
    rwa [outcomesOf_tape, Nat.sub_add_cancel p.attempts_pos] at hmin
  · have htrying := hlast.trying (Nat.le_of_lt_succ hmade)
    rwa [iterate_after_tape] at htrying

/-- A policy that allows no attempt allows one. -/
example : ({ standard with maxAttempts := 0 }.send id (tape fun _ => .ok 503) 0).2 = 1 := by decide

end RetryPolicy

end Overlay
