import MKurator.MqRest.Transport
import Mathlib.Algebra.Order.Ring.Int

/-! The retry policy that a `ResilienceConfig` gives, and the pauses between its attempts as 64-bit arithmetic doubles
them. -/

namespace MKurator.MqRest

def defaultMaxAttempts : Nat := 4
def defaultInitialBackoff : Int64 := 200000000
def defaultMaxBackoff : Int64 := 5000000000

/-- The settings of the retries. Durations are in nanoseconds. -/
structure ResilienceConfig where
  maxAttempts : Int64
  initialBackoff : Int64
  maxBackoff : Int64

/-- Only positive settings replace the defaults. -/
def retryPolicyFromResilience (cfg : ResilienceConfig) : RetryPolicy where
  maxAttempts := if 0 < cfg.maxAttempts then cfg.maxAttempts.toInt.toNat else defaultMaxAttempts
  initialBackoff := if 0 < cfg.initialBackoff then cfg.initialBackoff else defaultInitialBackoff
  maxBackoff := if 0 < cfg.maxBackoff then cfg.maxBackoff else defaultMaxBackoff
  maxAttempts_pos := by
    split
    next positive =>
      rw [Int64.lt_iff_toInt_lt, Int64.toInt_zero] at positive
      omega
    next => decide

def defaultRetryPolicy : RetryPolicy := retryPolicyFromResilience ⟨0, 0, 0⟩

section Words

def wrap64 (x : Int) : Int := x.bmod (2 ^ 64)

theorem wrap64_of_fits {x : Int} (nonneg : 0 ≤ x) (fits : x < 2 ^ 63) : wrap64 x = x :=
  Int.bmod_eq_of_le_mul_two (by omega) (by omega)

theorem wrap64_toInt (d : Int64) : wrap64 d.toInt = d.toInt := d.toInt_bmod

theorem wrap64_le_self {x : Int} (nonneg : 0 ≤ x) : wrap64 x ≤ x := by
  rw [wrap64, Int.bmod_def]
  split <;> omega

theorem wrap64_neg {x : Int} (past : 2 ^ 63 ≤ x) (close : x < 2 ^ 64) : wrap64 x < 0 := by
  rw [wrap64, Int.bmod_def]
  split <;> omega

theorem wrap64_doubled (d : Int64) (n : Nat) : wrap64 ((d * 2).toInt * 2 ^ n) = wrap64 (d.toInt * 2 ^ (n + 1)) := by
  have two : (2 : Int64).toInt = 2 := rfl
  rw [wrap64, wrap64, Int64.toInt_mul, Int.bmod_mul_bmod, two, mul_assoc, ← pow_succ']

end Words

namespace RetryPolicy

section Loop

def ReachesCap (cap d : Int) (doublings : Nat) : Prop := ∃ i, 0 < i ∧ i ≤ doublings ∧ cap ≤ wrap64 (d * 2 ^ i)

theorem not_reachesCap_zero (cap d : Int) : ¬ReachesCap cap d 0 := by
  intro ⟨i, some_doubling, within, _⟩
  omega

theorem reachesCap_succ (cap : Int) (d : Int64) (n : Nat) :
    ReachesCap cap d.toInt (n + 1) ↔ cap ≤ (d * 2).toInt ∨ ReachesCap cap (d * 2).toInt n := by
  have once : wrap64 (d.toInt * 2 ^ 1) = (d * 2).toInt := by
    rw [← wrap64_doubled, pow_zero, mul_one, wrap64_toInt]
  constructor
  · intro ⟨i, some_doubling, within, reached⟩
    rcases Nat.lt_or_ge 1 i with later | first
    · obtain ⟨j, rfl⟩ := Nat.exists_eq_add_of_lt later
      refine .inr ⟨1 + j, by omega, by omega, ?_⟩
      rwa [wrap64_doubled]
    · obtain rfl : i = 1 := by omega
      exact .inl (once ▸ reached)
  · rintro (reached | ⟨i, some_doubling, within, reached⟩)
    · exact ⟨1, by omega, by omega, once.symm ▸ reached⟩
    · refine ⟨i + 1, by omega, by omega, ?_⟩
      rwa [← wrap64_doubled]

theorem toInt_backoffFrom (cap d : Int64) (n : Nat) :
    (ReachesCap cap.toInt d.toInt n ∧ (backoffFrom cap n d).toInt = cap.toInt) ∨
      (¬ReachesCap cap.toInt d.toInt n ∧ (backoffFrom cap n d).toInt = wrap64 (d.toInt * 2 ^ n)) := by
  induction n generalizing d with
  | zero =>
    refine .inr ⟨not_reachesCap_zero _ _, ?_⟩
    rw [backoffFrom, pow_zero, mul_one, wrap64_toInt]
  | succ n ih =>
    rw [reachesCap_succ, backoffFrom, ← Int64.le_iff_toInt_le, ← wrap64_doubled]
    by_cases reached : cap ≤ d * 2
    · rw [if_pos reached]
      exact .inl ⟨.inl reached, rfl⟩
    · rw [if_neg reached, or_iff_right reached]
      exact ih (d * 2)

theorem doubled_le {d : Int} (positive : 0 < d) {i n : Nat} (within : i ≤ n) : d * 2 ^ i ≤ d * 2 ^ n :=
  Int.mul_le_mul_of_nonneg_left (pow_le_pow_right₀ (by decide) within) positive.le

theorem doubled_nonneg {d : Int} (positive : 0 < d) (i : Nat) : 0 ≤ d * 2 ^ i :=
  mul_nonneg positive.le (pow_nonneg (by decide) i)

/-- The loop gives the smaller one of the exact multiple and the cap if the multiple has not passed the cap, or a word
has reached it. -/
theorem backoffFrom_eq_min_iff (cap : Int64) {d : Int64} (positive : 0 < d.toInt) (n : Nat) :
    (backoffFrom cap n d).toInt = min (d.toInt * 2 ^ n) cap.toInt ↔
      d.toInt * 2 ^ n ≤ cap.toInt ∨ ReachesCap cap.toInt d.toInt n := by
  have below_top := cap.toInt_lt
  rcases toInt_backoffFrom cap d n with ⟨reaches, value⟩ | ⟨never, value⟩
  · -- the word that reached the cap is no more than the number it stands for
    obtain ⟨i, some_doubling, within, reached⟩ := reaches
    have passed : cap.toInt ≤ d.toInt * 2 ^ n :=
      calc cap.toInt ≤ wrap64 (d.toInt * 2 ^ i) := reached
        _ ≤ d.toInt * 2 ^ i := wrap64_le_self (doubled_nonneg positive i)
        _ ≤ d.toInt * 2 ^ n := doubled_le positive within
    rw [value, min_eq_right passed]
    exact iff_of_true rfl (.inr ⟨i, some_doubling, within, reached⟩)
  · rw [value, or_iff_left never]
    constructor
    · intro same
      by_contra passed
      rw [min_eq_right (by omega)] at same
      cases n with
      | zero => rw [pow_zero, mul_one, wrap64_toInt] at same; omega
      | succ n => exact never ⟨n + 1, by omega, le_rfl, same.ge⟩
    · intro within
      rw [min_eq_left within, wrap64_of_fits (doubled_nonneg positive n) (by omega)]

theorem exists_doubled_ge (cap : Int64) {d : Int64} (positive : 0 < d.toInt) :
    ∃ k, cap.toInt ≤ d.toInt * 2 ^ (k + 1) := by
  have below_top := cap.toInt_lt
  refine ⟨62, ?_⟩
  omega

/-- If the multiples stay below the cap up to one that leaves the word, its sign hides that it has passed the cap. -/
theorem not_reachesCap_of_leaving {cap d : Int} (positive : 0 < d) (cap_pos : 0 ≤ cap) (below_top : cap < 2 ^ 63) {k : Nat}
    (below : ∀ i, 0 < i → i ≤ k → d * 2 ^ i < cap) (last : d * 2 ^ k < 2 ^ 63) (leaves : 2 ^ 63 ≤ d * 2 ^ (k + 1)) :
    ¬ReachesCap cap d (k + 1) := by
  intro ⟨i, some_doubling, within, word⟩
  rcases Nat.lt_or_ge k i with final | earlier
  · obtain rfl : i = k + 1 := by omega
    have sign : wrap64 (d * 2 ^ (k + 1)) < 0 := by
      apply wrap64_neg leaves
      rw [pow_succ, ← mul_assoc]
      omega
    omega
  · have before := below i some_doubling earlier
    rw [wrap64_of_fits (doubled_nonneg positive i) (by omega)] at word
    omega

/-- The start is no more than the cap, and a doubled value reaches the cap before it leaves the word. -/
def InReach (cap d : Int) : Prop := d ≤ cap ∧ ∃ k, cap ≤ d * 2 ^ (k + 1) ∧ d * 2 ^ (k + 1) < 2 ^ 63

theorem inReach_of_always (cap : Int64) {d : Int64} (positive : 0 < d.toInt)
    (always : ∀ n, d.toInt * 2 ^ n ≤ cap.toInt ∨ ReachesCap cap.toInt d.toInt n) : InReach cap.toInt d.toInt := by
  have below_top := cap.toInt_lt
  have starts : d.toInt ≤ cap.toInt := by
    rcases always 0 with within | reaches
    · rwa [pow_zero, mul_one] at within
    · exact absurd reaches (not_reachesCap_zero _ _)
  -- the first multiple past the start that reaches the cap
  obtain ⟨k, reached, least⟩ : ∃ k, cap.toInt ≤ d.toInt * 2 ^ (k + 1) ∧ ∀ j < k, d.toInt * 2 ^ (j + 1) < cap.toInt :=
    ⟨Nat.find (exists_doubled_ge cap positive), Nat.find_spec (exists_doubled_ge cap positive),
      fun j before => not_le.mp (Nat.find_min (exists_doubled_ge cap positive) before)⟩
  refine ⟨starts, k, reached, ?_⟩
  by_contra leaves
  have below : ∀ i, 0 < i → i ≤ k → d.toInt * 2 ^ i < cap.toInt := by
    intro i some_doubling within
    have before := least (i - 1) (by omega)
    rwa [Nat.sub_add_cancel some_doubling] at before
  have last : d.toInt * 2 ^ k < 2 ^ 63 := by
    cases k with
    | zero => rw [pow_zero, mul_one]; exact d.toInt_lt
    | succ j => exact (least j (by omega)).trans below_top
  rcases always (k + 1) with within | reaches
  · omega
  · exact not_reachesCap_of_leaving positive (by omega) below_top below last (not_lt.mp leaves) reaches

theorem always_of_inReach {cap d : Int} (positive : 0 < d) (reach : InReach cap d) (n : Nat) :
    d * 2 ^ n ≤ cap ∨ ReachesCap cap d n := by
  obtain ⟨starts, k, reached, fits⟩ := reach
  by_cases within : d * 2 ^ n ≤ cap
  · exact .inl within
  · have doubled : 0 < n := by
      rcases Nat.eq_zero_or_pos n with rfl | doubled
      · rw [pow_zero, mul_one] at within
        exact absurd starts within
      · exact doubled
    apply Or.inr
    rcases Nat.lt_or_ge (k + 1) n with later | sooner
    · exact ⟨k + 1, by omega, later.le, by rwa [wrap64_of_fits (doubled_nonneg positive _) fits]⟩
    · refine ⟨n, doubled, le_rfl, ?_⟩
      rw [wrap64_of_fits (doubled_nonneg positive n) ((doubled_le positive sooner).trans_lt fits)]
      omega

end Loop

/-- The pause before an attempt in exact arithmetic: the first pause, doubled so often, up to the cap. -/
def ExactAt (p : RetryPolicy) (attempt : Nat) : Prop :=
  (p.backoff attempt).toInt = min (p.initialBackoff.toInt * 2 ^ (attempt - 1)) p.maxBackoff.toInt

structure Scheduled (p : RetryPolicy) : Prop where
  exact : ∀ attempt, 1 ≤ attempt → p.ExactAt attempt
  positive : ∀ attempt, 1 ≤ attempt → 0 < (p.backoff attempt).toInt
  growing : ∀ first second, 1 ≤ first → first ≤ second → (p.backoff first).toInt ≤ (p.backoff second).toInt
  capped : ∀ attempt, 1 ≤ attempt → (p.backoff attempt).toInt ≤ p.maxBackoff.toInt

def CapInReach (p : RetryPolicy) : Prop := InReach p.maxBackoff.toInt p.initialBackoff.toInt

variable {p : RetryPolicy}

theorem exactAt_iff (start : 0 < p.initialBackoff.toInt) (attempt : Nat) :
    p.ExactAt attempt ↔ p.initialBackoff.toInt * 2 ^ (attempt - 1) ≤ p.maxBackoff.toInt ∨
      ReachesCap p.maxBackoff.toInt p.initialBackoff.toInt (attempt - 1) :=
  backoffFrom_eq_min_iff p.maxBackoff start (attempt - 1)

theorem Scheduled.of_exact (start : 0 < p.initialBackoff.toInt) (cap : 0 < p.maxBackoff.toInt)
    (exact : ∀ attempt, 1 ≤ attempt → p.ExactAt attempt) : p.Scheduled where
  exact := exact
  positive attempt counted := by
    rw [exact attempt counted]
    exact lt_min (mul_pos start (pow_pos (by decide) _)) cap
  growing first second counted later := by
    rw [exact first counted, exact second (counted.trans later)]
    exact min_le_min (doubled_le start (Nat.sub_le_sub_right later 1)) le_rfl
  capped attempt counted := by
    rw [exact attempt counted]
    exact min_le_right _ _

theorem scheduled_iff (start : 0 < p.initialBackoff.toInt) (cap : 0 < p.maxBackoff.toInt) :
    p.Scheduled ↔ p.CapInReach := by
  constructor
  · intro scheduled
    apply inReach_of_always p.maxBackoff start
    intro n
    exact (exactAt_iff start (n + 1)).mp (scheduled.exact (n + 1) (Nat.le_add_left 1 n))
  · intro reach
    apply Scheduled.of_exact start cap
    intro attempt _
    exact (exactAt_iff start attempt).mpr (always_of_inReach start reach (attempt - 1))

end RetryPolicy

section Policies

open RetryPolicy

variable (cfg : ResilienceConfig)

theorem retryPolicyFromResilience_initialBackoff : 0 < (retryPolicyFromResilience cfg).initialBackoff.toInt := by
  change 0 < (if 0 < cfg.initialBackoff then cfg.initialBackoff else defaultInitialBackoff).toInt
  split
  next set => rwa [Int64.lt_iff_toInt_lt, Int64.toInt_zero] at set
  next => decide

theorem retryPolicyFromResilience_maxBackoff : 0 < (retryPolicyFromResilience cfg).maxBackoff.toInt := by
  change 0 < (if 0 < cfg.maxBackoff then cfg.maxBackoff else defaultMaxBackoff).toInt
  split
  next set => rwa [Int64.lt_iff_toInt_lt, Int64.toInt_zero] at set
  next => decide

theorem defaultRetryPolicy_scheduled : defaultRetryPolicy.Scheduled := by
  refine (scheduled_iff (retryPolicyFromResilience_initialBackoff _) (retryPolicyFromResilience_maxBackoff _)).mpr ?_
  exact ⟨by decide, 5, by decide, by decide⟩

/-- A configuration's schedule is the exact one if and only if its cap is in reach; the pause before a single attempt is,
if and only if the doubled pause has not passed the cap or a doubled word has reached it. -/
theorem backoff_schedule_iff :
    ((retryPolicyFromResilience cfg).Scheduled ↔ (retryPolicyFromResilience cfg).CapInReach) ∧
      ∀ attempt, 1 ≤ attempt →
        ((retryPolicyFromResilience cfg).ExactAt attempt ↔
          (retryPolicyFromResilience cfg).initialBackoff.toInt * 2 ^ (attempt - 1) ≤
              (retryPolicyFromResilience cfg).maxBackoff.toInt ∨
            ReachesCap (retryPolicyFromResilience cfg).maxBackoff.toInt
              (retryPolicyFromResilience cfg).initialBackoff.toInt (attempt - 1)) := by
  have start := retryPolicyFromResilience_initialBackoff cfg
  refine ⟨scheduled_iff start (retryPolicyFromResilience_maxBackoff cfg), ?_⟩
  intro attempt _
  exact exactAt_iff start attempt

end Policies

/-- A first pause of ten seconds is not cut off at five; with a cap at the end of the range the second pause of a first
one of 2^62 ns is negative. -/
theorem backoff_leaves_schedule :
    (retryPolicyFromResilience ⟨4, 10000000000, 5000000000⟩).backoff 1 = 10000000000 ∧
      ¬(retryPolicyFromResilience ⟨4, 10000000000, 5000000000⟩).ExactAt 1 ∧
      (retryPolicyFromResilience ⟨4, 2 ^ 62, 2 ^ 63 - 1⟩).backoff 2 = -2 ^ 63 ∧
      ¬(retryPolicyFromResilience ⟨4, 2 ^ 62, 2 ^ 63 - 1⟩).ExactAt 2 := by
  refine ⟨by decide +kernel, ?_, by decide +kernel, ?_⟩ <;> unfold RetryPolicy.ExactAt <;> decide +kernel

end MKurator.MqRest
