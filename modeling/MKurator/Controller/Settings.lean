import MKurator.Controller.Connection
import MKurator.Controller.Requeue
import MKurator.Lib.Binary
import MKurator.Lib.System

/-! The settings of the controllers: worker count, delays and the request deadline. They are variables of the package that
setters change at start-up; values that make no sense are ignored. -/

namespace MKurator.Controller
open MKurator.Api MKurator.MqAdmin MKurator.Lib MKurator.Lib.Strings

section Settings

/-- Durations are in nanoseconds. -/
structure Settings where
  driftResyncLower : Int64
  driftResyncUpper : Int64
  connectionWaitInterval : Int64
  transientRequeueInterval : Int64
  terminalRetryInterval : Int64
  mqRequestTimeout : Int64
  maxConcurrentReconciles : Int64
deriving DecidableEq, Repr

def second : Int64 := 1000000000

def setDriftResyncInterval (lower upper : Int64) (s : Settings) : Settings :=
  if lower ≤ 0 ∨ upper ≤ 0 ∨ upper < lower then s
  else { s with driftResyncLower := lower, driftResyncUpper := upper }

/-- A setter that ignores a duration which is not positive. -/
def setPositive (d : Int64) (s changed : Settings) : Settings := if d ≤ 0 then s else changed

def setConnectionWaitInterval (d : Int64) (s : Settings) : Settings :=
  setPositive d s { s with connectionWaitInterval := d }

def setTransientRequeueInterval (d : Int64) (s : Settings) : Settings :=
  setPositive d s { s with transientRequeueInterval := d }

def setTerminalRetryInterval (d : Int64) (s : Settings) : Settings :=
  setPositive d s { s with terminalRetryInterval := d }

def setMQRequestTimeout (d : Int64) (s : Settings) : Settings :=
  setPositive d s { s with mqRequestTimeout := d }

def setMaxConcurrentReconciles (n : Int64) (s : Settings) : Settings :=
  { s with maxConcurrentReconciles := if n < 1 then 1 else n }

inductive Setter where
  | setDriftResyncInterval (lower upper : Int64)
  | setConnectionWaitInterval (d : Int64)
  | setTransientRequeueInterval (d : Int64)
  | setTerminalRetryInterval (d : Int64)
  | setMQRequestTimeout (d : Int64)
  | setMaxConcurrentReconciles (n : Int64)

def Settings.next (s : Settings) : Setter → Settings
  | .setDriftResyncInterval lower upper => Controller.setDriftResyncInterval lower upper s
  | .setConnectionWaitInterval d => Controller.setConnectionWaitInterval d s
  | .setTransientRequeueInterval d => Controller.setTransientRequeueInterval d s
  | .setTerminalRetryInterval d => Controller.setTerminalRetryInterval d s
  | .setMQRequestTimeout d => Controller.setMQRequestTimeout d s
  | .setMaxConcurrentReconciles n => Controller.setMaxConcurrentReconciles n s

def float64Bits : Nat := 53

/-- `math/rand` draws one of the multiples of `2 ^ -53` below one. -/
abbrev Draw : Type := Fin (2 ^ float64Bits)

/-- `float64(d)` for a duration that is not negative. -/
def float64 (d : Int64) : Nat := Binary.rounded float64Bits d.toInt.toNat

/-- `time.Duration(r * f)` for a draw `r`. The product is kept in units of `2 ^ -53` until the fraction is cut off. -/
def jitter (draw : Draw) (f : Nat) : Int64 :=
  Int64.ofNat (Binary.rounded float64Bits (draw * f) / 2 ^ float64Bits)

def Settings.driftResyncAfter (s : Settings) (draw : Draw) : Int64 :=
  if s.driftResyncUpper ≤ s.driftResyncLower then s.driftResyncLower
  else s.driftResyncLower + jitter draw (float64 (s.driftResyncUpper - s.driftResyncLower))

end Settings

section Sane

structure Settings.Sane (s : Settings) : Prop where
  lower : 0 < s.driftResyncLower
  window : s.driftResyncLower ≤ s.driftResyncUpper
  connectionWait : 0 < s.connectionWaitInterval
  transientRequeue : 0 < s.transientRequeueInterval
  terminalRetry : 0 < s.terminalRetryInterval
  requestTimeout : 0 < s.mqRequestTimeout
  workers : 1 ≤ s.maxConcurrentReconciles

variable {s : Settings}

theorem sane_setPositive {d : Int64} {changed : Settings} (sane : s.Sane) (wanted : 0 < d → changed.Sane) :
    (setPositive d s changed).Sane := by
  unfold setPositive
  split
  · exact sane
  next positive => exact wanted (Int64.not_le.mp positive)

theorem Settings.Sane.next (sane : s.Sane) (setter : Setter) : (s.next setter).Sane := by
  cases setter with
  | setDriftResyncInterval lower upper =>
    simp only [Settings.next, setDriftResyncInterval]
    split
    · exact sane
    next accepted =>
      simp only [not_or, Int64.not_le, Int64.not_lt] at accepted
      exact { sane with lower := accepted.1, window := accepted.2.2 }
  | setConnectionWaitInterval d => exact sane_setPositive sane fun positive => { sane with connectionWait := positive }
  | setTransientRequeueInterval d => exact sane_setPositive sane fun positive => { sane with transientRequeue := positive }
  | setTerminalRetryInterval d => exact sane_setPositive sane fun positive => { sane with terminalRetry := positive }
  | setMQRequestTimeout d => exact sane_setPositive sane fun positive => { sane with requestTimeout := positive }
  | setMaxConcurrentReconciles n =>
    refine { sane with workers := ?_ }
    simp only [Settings.next, setMaxConcurrentReconciles]
    split
    · exact Int64.le_refl 1
    next enough => exact Int64.not_lt.mp enough

theorem toInt_jitter (draw : Draw) {d : Int64} (nonneg : 0 ≤ d) :
    0 ≤ (jitter draw (float64 d)).toInt ∧ (jitter draw (float64 d)).toInt ≤ d.toInt := by
  have start : 0 ≤ d.toInt := Int64.le_iff_toInt_le.mp nonneg
  have bound : d.toInt < 2 ^ 63 := d.toInt_lt
  have below : Binary.rounded float64Bits (draw * float64 d) / 2 ^ float64Bits ≤ d.toInt.toNat :=
    Nat.div_le_of_le_mul (Binary.rounded_fraction_le (by decide) draw.isLt _)
  rw [jitter]
  generalize Binary.rounded float64Bits (draw * float64 d) / 2 ^ float64Bits = drawn at below ⊢
  rw [Int64.toInt_ofNat_of_lt (by omega)]
  omega

/-- A draw of the jitter stays within the window, however wide it is: rounding to `float64` never takes it out. -/
theorem Settings.Sane.driftResyncAfter (sane : s.Sane) (draw : Draw) :
    s.driftResyncLower ≤ s.driftResyncAfter draw ∧ s.driftResyncAfter draw ≤ s.driftResyncUpper := by
  unfold Settings.driftResyncAfter
  split
  · exact ⟨Int64.le_refl _, sane.window⟩
  · have lower : 0 < s.driftResyncLower.toInt := Int64.lt_iff_toInt_lt.mp sane.lower
    have window : s.driftResyncLower.toInt ≤ s.driftResyncUpper.toInt := Int64.le_iff_toInt_le.mp sane.window
    have upper : s.driftResyncUpper.toInt < 2 ^ 63 := Int64.toInt_lt _
    -- neither the width of the window nor the sum overflows
    have width : (s.driftResyncUpper - s.driftResyncLower).toInt =
        s.driftResyncUpper.toInt - s.driftResyncLower.toInt := by
      rw [Int64.toInt_sub, Int.bmod_eq_of_le (by omega) (by omega)]
    have drawn := toInt_jitter draw (d := s.driftResyncUpper - s.driftResyncLower)
      (Int64.le_iff_toInt_le.mpr (by rw [width]; exact Int.sub_nonneg_of_le window))
    rw [width] at drawn
    rw [Int64.le_iff_toInt_le, Int64.le_iff_toInt_le, Int64.toInt_add, Int.bmod_eq_of_le (by omega) (by omega)]
    omega

end Sane

section Delays

variable {K : Kind} {env : Env K.Spec K.MQSpec K.State} {obj : Workload K.Spec}

variable [UnicodeTables]

end Delays

section Configured

variable {s : Settings}

theorem toNat_pos {d : Int64} (positive : 0 < d) : 0 < d.toNatClampNeg := by
  have here : 0 < d.toInt := Int64.lt_iff_toInt_lt.mp positive
  rw [Int64.toNatClampNeg]
  omega

def Settings.intervals (s : Settings) (sane : s.Sane) (draw : Draw) : Intervals where
  connectionWait := s.connectionWaitInterval.toNatClampNeg
  transientRequeue := s.transientRequeueInterval.toNatClampNeg
  driftResyncAfter := (s.driftResyncAfter draw).toNatClampNeg
  connectionWait_pos := toNat_pos sane.connectionWait
  transientRequeue_pos := toNat_pos sane.transientRequeue
  driftResyncAfter_pos := toNat_pos (Int64.lt_of_lt_of_le sane.lower (sane.driftResyncAfter draw).1)

variable [UnicodeTables] {K : Kind} {env : Env K.Spec K.MQSpec K.State} {probe : QueueManagerConnectionReconciler.ProbeEnv}

end Configured

section Cases

attribute [local instance] asciiTables

end Cases

end MKurator.Controller
