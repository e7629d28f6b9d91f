import MKurator.MqRest.Transport

/-! The circuit breaker over every history of its three operations. -/

namespace MKurator.MqRest

inductive BreakerCall where
  | beforeRequest (now : Int)
  | recordSuccess
  | recordFailure (now : Int)
  deriving DecidableEq, Repr

/-- The operations so far, the latest one first. -/
abbrev BreakerHistory := List BreakerCall

namespace CircuitBreaker

def apply (b : CircuitBreaker) : BreakerCall → CircuitBreaker
  | .beforeRequest now => (b.beforeRequest now).2
  | .recordSuccess => b.recordSuccess
  | .recordFailure now => b.recordFailure now

def after (b : CircuitBreaker) : BreakerHistory → CircuitBreaker
  | [] => b
  | call :: earlier => (b.after earlier).apply call

end CircuitBreaker

def failuresSinceSuccess : BreakerHistory → Nat
  | [] => 0
  | .recordSuccess :: _ => 0
  | .recordFailure _ :: earlier => failuresSinceSuccess earlier + 1
  | .beforeRequest _ :: earlier => failuresSinceSuccess earlier

def latestFailure : BreakerHistory → Option Int
  | [] => none
  | .recordFailure now :: _ => some now
  | _ :: earlier => latestFailure earlier

namespace CircuitBreaker

structure Counts (b : CircuitBreaker) (failures : Nat) (latest : Option Int) : Prop where
  closed_iff : b.state = .closed ↔ failures < b.cfg.failureThreshold
  counted : b.state = .closed → b.consecutiveFails = failures
  tripped : b.state ≠ .closed → b.cfg.failureThreshold ≤ b.consecutiveFails
  probing : b.probeInFlight = true ↔ b.state = .halfOpen
  openedAt : b.state ≠ .closed → latest = some b.openedAt

theorem beforeRequest_cases (b : CircuitBreaker) (now : Int) :
    (b.state = .closed ∧ b.beforeRequest now = (none, b)) ∨
    (b.state = .opened ∧ now - b.openedAt < b.cfg.openTimeout ∧ b.beforeRequest now = (some circuitOpenError, b)) ∨
    (b.state = .opened ∧ b.cfg.openTimeout ≤ now - b.openedAt ∧
      b.beforeRequest now = (none, { b with state := .halfOpen, probeInFlight := true })) ∨
    (b.state = .halfOpen ∧ b.probeInFlight = true ∧ b.beforeRequest now = (some circuitOpenError, b)) ∨
    (b.state = .halfOpen ∧ b.probeInFlight = false ∧ b.beforeRequest now = (none, { b with probeInFlight := true })) := by
  unfold beforeRequest
  cases state : b.state with
  | closed => exact .inl ⟨rfl, rfl⟩
  | opened =>
    by_cases early : now - b.openedAt < b.cfg.openTimeout
    · exact .inr (.inl ⟨rfl, early, if_pos early⟩)
    · exact .inr (.inr (.inl ⟨rfl, by omega, if_neg early⟩))
  | halfOpen =>
    cases flag : b.probeInFlight with
    | true => exact .inr (.inr (.inr (.inl ⟨rfl, rfl, rfl⟩)))
    | false => exact .inr (.inr (.inr (.inr ⟨rfl, rfl, rfl⟩)))

variable {b : CircuitBreaker} {failures : Nat} {latest : Option Int}

theorem Counts.beforeRequest (counts : b.Counts failures latest) (now : Int) :
    (b.beforeRequest now).2.Counts failures latest := by
  rcases b.beforeRequest_cases now with ⟨-, same⟩ | ⟨-, -, same⟩ | ⟨opened, -, moved⟩ | ⟨-, -, same⟩ | ⟨half, unset, -⟩
  · rwa [same]
  · rwa [same]
  · have open_ : b.state ≠ .closed := by simp [opened]
    have reached : ¬failures < b.cfg.failureThreshold := fun few => open_ (counts.closed_iff.mpr few)
    rw [moved]
    exact ⟨iff_of_false (by simp) reached, by simp, fun _ => counts.tripped open_, by simp,
      fun _ => counts.openedAt open_⟩
  · rwa [same]
  · rw [counts.probing.mpr half] at unset
    cases unset

theorem recordSuccess_counts (b : CircuitBreaker) (latest : Option Int) : b.recordSuccess.Counts 0 latest where
  closed_iff := iff_of_true rfl b.cfg.failureThreshold_pos
  counted _ := rfl
  tripped open_ := absurd rfl open_
  probing := by simp [CircuitBreaker.recordSuccess]
  openedAt open_ := absurd rfl open_

theorem Counts.recordFailure (counts : b.Counts failures latest) (now : Int) :
    (b.recordFailure now).Counts (failures + 1) (some now) := by
  unfold CircuitBreaker.recordFailure
  split
  next half =>
    have open_ : b.state ≠ .closed := by simp [half]
    have before : ¬failures < b.cfg.failureThreshold := fun few => open_ (counts.closed_iff.mpr few)
    have reached : ¬failures + 1 < b.cfg.failureThreshold := by omega
    exact ⟨iff_of_false (by simp) reached, by simp, fun _ => counts.tripped open_, by simp, fun _ => rfl⟩
  next whole =>
    split
    next enough =>
      -- Either the breaker was open already, or this failure is the one that opens it.
      have reached : ¬failures + 1 < b.cfg.failureThreshold := by
        by_cases closed : b.state = .closed
        · have counted := counts.counted closed
          omega
        · have before : ¬failures < b.cfg.failureThreshold := fun few => closed (counts.closed_iff.mpr few)
          omega
      exact ⟨iff_of_false (by simp) reached, by simp, fun _ => enough, by simp, fun _ => rfl⟩
    next few =>
      have closed : b.state = .closed := by
        by_contra open_
        have tripped := counts.tripped open_
        omega
      have counted := counts.counted closed
      have below : failures + 1 < b.cfg.failureThreshold := by omega
      exact ⟨iff_of_true closed below, fun _ => by simp [counted], fun open_ => absurd closed open_, by simp [closed],
        fun open_ => absurd closed open_⟩

theorem cfg_recordFailure (b : CircuitBreaker) (now : Int) : (b.recordFailure now).cfg = b.cfg := by
  unfold CircuitBreaker.recordFailure
  split
  · rfl
  · split <;> rfl

theorem cfg_beforeRequest (b : CircuitBreaker) (now : Int) : (b.beforeRequest now).2.cfg = b.cfg := by
  rcases b.beforeRequest_cases now with ⟨-, same⟩ | ⟨-, -, same⟩ | ⟨-, -, same⟩ | ⟨-, -, same⟩ | ⟨-, -, same⟩ <;> rw [same]

end CircuitBreaker

theorem newCircuitBreaker_counts (failureThreshold openTimeout : Int) :
    (newCircuitBreaker failureThreshold openTimeout).Counts 0 none where
  closed_iff := iff_of_true rfl (newCircuitBreaker failureThreshold openTimeout).cfg.failureThreshold_pos
  counted _ := rfl
  tripped open_ := absurd rfl open_
  probing := by simp [newCircuitBreaker]
  openedAt open_ := absurd rfl open_

theorem counts_after (failureThreshold openTimeout : Int) (history : BreakerHistory) :
    ((newCircuitBreaker failureThreshold openTimeout).after history).Counts (failuresSinceSuccess history)
      (latestFailure history) := by
  induction history with
  | nil => exact newCircuitBreaker_counts failureThreshold openTimeout
  | cons call earlier ih =>
    cases call with
    | beforeRequest now => exact ih.beforeRequest now
    | recordSuccess => exact CircuitBreaker.recordSuccess_counts _ _
    | recordFailure now => exact ih.recordFailure now

theorem cfg_after (b : CircuitBreaker) (history : BreakerHistory) : (b.after history).cfg = b.cfg := by
  induction history with
  | nil => rfl
  | cons call earlier ih =>
    cases call with
    | beforeRequest now => exact ((b.after earlier).cfg_beforeRequest now).trans ih
    | recordSuccess => exact ih
    | recordFailure now => exact ((b.after earlier).cfg_recordFailure now).trans ih

/-- The breaker is closed exactly while there are fewer failures than the threshold, a probe is in flight only when it
is half-open, and an open breaker lets a request through only after the timeout. -/
theorem breaker_counts (failureThreshold openTimeout : Int) (history : BreakerHistory) :
    (((newCircuitBreaker failureThreshold openTimeout).after history).state = .closed ↔
      failuresSinceSuccess history < (newCircuitBreaker failureThreshold openTimeout).cfg.failureThreshold) ∧
    (((newCircuitBreaker failureThreshold openTimeout).after history).probeInFlight = true →
      ((newCircuitBreaker failureThreshold openTimeout).after history).state = .halfOpen) ∧
    ∀ now, ((newCircuitBreaker failureThreshold openTimeout).after history).state = .opened →
      (((newCircuitBreaker failureThreshold openTimeout).after history).beforeRequest now).1 = none →
      ∃ failed, latestFailure history = some failed ∧
        (newCircuitBreaker failureThreshold openTimeout).cfg.openTimeout ≤ now - failed := by
  have counts := counts_after failureThreshold openTimeout history
  have cfg := cfg_after (newCircuitBreaker failureThreshold openTimeout) history
  generalize (newCircuitBreaker failureThreshold openTimeout).after history = b at counts cfg ⊢
  rw [← cfg]
  refine ⟨counts.closed_iff, counts.probing.mp, fun now opened admitted => ?_⟩
  refine ⟨b.openedAt, counts.openedAt (by simp [opened]), ?_⟩
  rcases b.beforeRequest_cases now with ⟨other, -⟩ | ⟨-, -, refused⟩ | ⟨-, late, -⟩ | ⟨other, -⟩ | ⟨other, -⟩
  · simp [opened] at other
  · simp [refused] at admitted
  · exact late
  · simp [opened] at other
  · simp [opened] at other

theorem breaker_counts_two_failures :
    ∃ failed, latestFailure [.recordFailure 5, .recordFailure 0] = some failed ∧
      (newCircuitBreaker 2 10).cfg.openTimeout ≤ 20 - failed :=
  (breaker_counts 2 10 [.recordFailure 5, .recordFailure 0]).2.2 20 (by decide) (by decide)

end MKurator.MqRest
