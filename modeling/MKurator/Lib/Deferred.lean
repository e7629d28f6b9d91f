import MKurator.Lib.Fallible

/-! Calls with a variable `err` that a deferred function reads when they return. What a call returns and what the variable
holds at that point need not agree. -/

namespace MKurator.Lib

/-- The state of a call: what it shares with the rest of the program, and its variable. -/
@[ext] structure Frame (σ ε : Type) where
  shared : σ
  err : Option ε

/-- The statements of a call. A `throw` is a return of that error, which leaves the variable as it is. -/
abbrev Body (σ ε α : Type) : Type := Fallible (Frame σ ε) ε α

namespace Body

open Fallible

variable {σ τ ε α β κ : Type}

def errorOf : Except ε α → Option ε
  | .ok _ => none
  | .error e => some e

/-- `v, err = act()` -/
def assign (act : Fallible σ ε α) : Body σ ε (Except ε α) :=
  fun f => (.ok (outcome act f.shared), ⟨after act f.shared, errorOf (outcome act f.shared)⟩)

/-- `err = value` -/
def setErr (value : Option ε) : Body σ ε Unit := step fun f => ((), { f with err := value })

/-- `v, err = act()`, and a return of `err` unless it is nil. -/
def check (act : Fallible σ ε α) : Body σ ε α := do
  let result ← assign act
  Fallible.ofExcept result

/-- `err = e; return err` -/
def fail (e : ε) : Body σ ε α := do
  setErr (some e)
  throw e

/-- The call itself: `err` starts as nil, and `record` reads it at the end, whichever way the call returns. -/
def deferred (record : Option ε → σ → σ) (body : Body σ ε α) : Fallible σ ε α :=
  fun s => (outcome body ⟨s, none⟩, record (after body ⟨s, none⟩).err (after body ⟨s, none⟩).shared)

section Equations

variable (act : Fallible σ ε α) (f : Frame σ ε)

theorem outcome_check : outcome (check act) f = outcome act f.shared := by
  rw [check, outcome_bind]
  rfl

theorem after_check : after (check act) f = ⟨after act f.shared, errorOf (outcome act f.shared)⟩ := by
  rw [check, after_bind]
  rfl

theorem outcome_assign_bind (next : Except ε α → Body σ ε β) :
    outcome (assign act >>= next) f =
      outcome (next (outcome act f.shared)) ⟨after act f.shared, errorOf (outcome act f.shared)⟩ := by
  rw [outcome_bind]
  rfl

theorem after_assign_bind (next : Except ε α → Body σ ε β) :
    after (assign act >>= next) f =
      after (next (outcome act f.shared)) ⟨after act f.shared, errorOf (outcome act f.shared)⟩ := by
  rw [after_bind]
  rfl

variable (record : Option ε → σ → σ) (body : Body σ ε α) (s : σ)

theorem outcome_deferred : outcome (deferred record body) s = outcome body ⟨s, none⟩ := rfl

theorem after_deferred :
    after (deferred record body) s = record (after body ⟨s, none⟩).err (after body ⟨s, none⟩).shared := rfl

end Equations

def Keeps (view : σ → κ) (act : Fallible σ ε α) : Prop := ∀ s, view (after act s) = view s

def HonestAt (view : σ → κ) (body : Body σ ε α) (f : Frame σ ε) : Prop :=
  view (after body f).shared = view f.shared ∧ (after body f).err = errorOf (outcome body f)

def Honest (view : σ → κ) (body : Body σ ε α) : Prop := ∀ s, HonestAt view body ⟨s, none⟩

namespace Honest

variable {view : σ → κ}

theorem pure (value : α) : Honest view (Pure.pure value : Body σ ε α) := fun _ => ⟨rfl, rfl⟩

theorem fail (e : ε) : Honest view (Body.fail e : Body σ ε α) := fun _ => ⟨rfl, rfl⟩

theorem check {act : Fallible σ ε α} (keeps : Keeps view act) : Honest view (Body.check act) := by
  intro s
  rw [HonestAt, after_check, outcome_check]
  exact ⟨keeps s, rfl⟩

theorem bind {body : Body σ ε α} {next : α → Body σ ε β} (first : Honest view body)
    (second : ∀ value, Honest view (next value)) : Honest view (body >>= next) := by
  intro s
  obtain ⟨kept, told⟩ := first s
  rw [HonestAt, after_bind, outcome_bind]
  cases result : outcome body ⟨s, none⟩ with
  | error e =>
    rw [result] at told
    exact ⟨kept, told⟩
  | ok value =>
    rw [result] at told
    obtain ⟨kept_on, told_on⟩ := second value (after body ⟨s, none⟩).shared
    have frame : after body ⟨s, none⟩ = ⟨(after body ⟨s, none⟩).shared, none⟩ := Frame.ext rfl told
    rw [← frame] at kept_on told_on
    exact ⟨kept_on.trans kept, told_on⟩

theorem fail_bind (e : ε) (next : α → Body σ ε β) : Honest view (Body.fail e >>= next) := fun _ => ⟨rfl, rfl⟩

theorem assign {act : Fallible σ ε α} {next : Except ε α → Body σ ε β} (keeps : Keeps view act)
    (rest : ∀ s result, HonestAt view (next result) ⟨s, errorOf result⟩) : Honest view (Body.assign act >>= next) := by
  intro s
  obtain ⟨kept, told⟩ := rest (after act s) (outcome act s)
  rw [HonestAt, after_assign_bind, outcome_assign_bind]
  exact ⟨kept.trans (keeps s), told⟩

end Honest

section Views

variable {part : σ → τ}

theorem simulates_check {act : Fallible σ ε α} {seen : Fallible τ ε α} (same : Simulates part act seen) :
    Simulates (fun f : Frame σ ε => part f.shared) (check act) seen := by
  intro f
  rw [outcome_check, after_check]
  exact same f.shared

theorem simulates_fail (e : ε) :
    Simulates (fun f : Frame σ ε => part f.shared) (fail e : Body σ ε α) (throw e : Fallible τ ε α) :=
  fun _ => ⟨rfl, rfl⟩

theorem simulates_deferred {record : Option ε → σ → σ} {body : Body σ ε α} {seen : Fallible τ ε α}
    (unseen : ∀ err s, part (record err s) = part s)
    (same : Simulates (fun f : Frame σ ε => part f.shared) body seen) : Simulates part (deferred record body) seen := by
  intro s
  obtain ⟨sameOutcome, sameState⟩ := same ⟨s, none⟩
  refine ⟨sameOutcome, ?_⟩
  rw [after_deferred, unseen]
  exact sameState

end Views

end Body

end MKurator.Lib
