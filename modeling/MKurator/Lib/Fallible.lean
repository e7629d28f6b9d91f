import Mathlib.Tactic.TypeStar

/-! Code that threads a state and may stop with an error; what it changed before it stopped stays changed. -/

namespace MKurator.Lib

abbrev Fallible (σ ε α : Type) : Type := ExceptT ε (StateM σ) α

namespace Fallible

variable {σ ε α β : Type}

theorem exists_of_bind_ok {first : Except ε α} {next : α → Except ε β} {result : β} (done : (first >>= next) = .ok result) :
    ∃ value, first = .ok value ∧ next value = .ok result := by
  cases first with
  | error e => cases done
  | ok value => exact ⟨value, rfl, done⟩

theorem ok_of_mapError {δ : Type} {convert : ε → δ} {result : Except ε α} {value : α}
    (done : result.mapError convert = .ok value) : result = .ok value := by
  cases result with
  | error e => cases done
  | ok got =>
    cases done
    rfl

def step (act : σ → α × σ) : Fallible σ ε α := fun s => (.ok (act s).1, (act s).2)

def ofExcept (value : Except ε α) : Fallible σ ε α := fun s => (value, s)

def mapError {δ : Type} (convert : ε → δ) (act : Fallible σ ε α) : Fallible σ δ α :=
  fun s => ((act s).1.mapError convert, (act s).2)

def settle {δ : Type} (judge : Except ε α → Except δ β) (act : Fallible σ ε α) : Fallible σ δ β :=
  fun s => (judge (act s).1, (act s).2)

def focus {τ : Type} (part : τ → σ) (replace : τ → σ → τ) (act : Fallible σ ε α) : Fallible τ ε α :=
  fun t => ((act (part t)).1, replace t (act (part t)).2)

def forgive (forgiven : ε → Bool) (act : Fallible σ ε Unit) : Fallible σ ε Unit :=
  fun s => (match (act s).1 with
    | .error e => if forgiven e then .ok () else .error e
    | .ok () => .ok (), (act s).2)

def outcome (act : Fallible σ ε α) (s : σ) : Except ε α := (act s).1

def after (act : Fallible σ ε α) (s : σ) : σ := (act s).2

@[simp] theorem outcome_pure (value : α) (s : σ) : outcome (pure value : Fallible σ ε α) s = .ok value := rfl

@[simp] theorem outcome_throw (e : ε) (s : σ) : outcome (throw e : Fallible σ ε α) s = .error e := rfl

@[simp] theorem outcome_step (act : σ → α × σ) (s : σ) : outcome (step act : Fallible σ ε α) s = .ok (act s).1 := rfl

@[simp] theorem outcome_ofExcept (value : Except ε α) (s : σ) : outcome (ofExcept value) s = value := rfl

@[simp] theorem after_pure (value : α) (s : σ) : after (pure value : Fallible σ ε α) s = s := rfl

@[simp] theorem after_throw (e : ε) (s : σ) : after (throw e : Fallible σ ε α) s = s := rfl

@[simp] theorem after_step (act : σ → α × σ) (s : σ) : after (step act : Fallible σ ε α) s = (act s).2 := rfl

@[simp] theorem after_ofExcept (value : Except ε α) (s : σ) : after (ofExcept value) s = s := rfl

theorem bind_apply (act : Fallible σ ε α) (next : α → Fallible σ ε β) (s : σ) :
    (act >>= next) s = match act s with
      | (.ok value, later) => next value later
      | (.error e, later) => (.error e, later) := by
  change ExceptT.bindCont next (act s).1 (act s).2 = _
  rcases act s with ⟨e | value, later⟩ <;> rfl

theorem outcome_bind (act : Fallible σ ε α) (next : α → Fallible σ ε β) (s : σ) :
    outcome (act >>= next) s = match outcome act s with
      | .ok value => outcome (next value) (after act s)
      | .error e => .error e := by
  simp only [outcome, after, bind_apply]
  rcases act s with ⟨e | value, later⟩ <;> rfl

theorem after_bind (act : Fallible σ ε α) (next : α → Fallible σ ε β) (s : σ) :
    after (act >>= next) s = match outcome act s with
      | .ok value => after (next value) (after act s)
      | .error _ => after act s := by
  simp only [outcome, after, bind_apply]
  rcases act s with ⟨e | value, later⟩ <;> rfl

theorem outcome_bind_ok {act : Fallible σ ε α} {s : σ} {value : α} (done : outcome act s = .ok value)
    (next : α → Fallible σ ε β) : outcome (act >>= next) s = outcome (next value) (after act s) := by
  rw [outcome_bind, done]

theorem outcome_mapError {δ : Type} (convert : ε → δ) (act : Fallible σ ε α) (s : σ) :
    outcome (mapError convert act) s = (outcome act s).mapError convert := rfl

theorem after_mapError {δ : Type} (convert : ε → δ) (act : Fallible σ ε α) (s : σ) :
    after (mapError convert act) s = after act s := rfl

section Focus

variable {τ : Type} (part : τ → σ) (replace : τ → σ → τ) (act : Fallible σ ε α) (t : τ)

theorem outcome_focus : outcome (focus part replace act) t = outcome act (part t) := rfl

theorem focus_bind (got : ∀ t s, part (replace t s) = s) (overwritten : ∀ t s s', replace (replace t s) s' = replace t s')
    (next : α → Fallible σ ε β) :
    focus part replace (act >>= next) = focus part replace act >>= fun value => focus part replace (next value) := by
  funext t
  have first : focus part replace act t = ((act (part t)).1, replace t (act (part t)).2) := rfl
  have whole : focus part replace (act >>= next) t =
      (((act >>= next) (part t)).1, replace t ((act >>= next) (part t)).2) := rfl
  rw [whole, bind_apply, bind_apply, first]
  rcases act (part t) with ⟨e | value, later⟩
  · rfl
  · simp only [focus, got, overwritten]

end Focus

theorem outcome_forgive (forgiven : ε → Bool) (act : Fallible σ ε Unit) (s : σ) :
    outcome (forgive forgiven act) s = match outcome act s with
      | .error e => if forgiven e then .ok () else .error e
      | .ok () => .ok () := rfl

theorem outcome_forgive_ok_iff (forgiven : ε → Bool) (act : Fallible σ ε Unit) (s : σ) :
    outcome (forgive forgiven act) s = .ok () ↔
      outcome act s = .ok () ∨ ∃ e, outcome act s = .error e ∧ forgiven e = true := by
  rw [outcome_forgive]
  cases outcome act s with
  | ok _ => simp
  | error e => by_cases pardoned : forgiven e = true <;> simp [pardoned]

/-- Whatever the state, the action stops only with an allowed error. -/
def FailsOnly (allowed : ε → Prop) (act : Fallible σ ε α) : Prop := ∀ s e, outcome act s = .error e → allowed e

namespace FailsOnly

variable {allowed : ε → Prop}

theorem pure (value : α) : FailsOnly allowed (Pure.pure value : Fallible σ ε α) := fun _ _ stopped => by cases stopped

theorem throw {e : ε} (permitted : allowed e) : FailsOnly allowed (MonadExcept.throw e : Fallible σ ε α) := by
  intro s e' stopped
  cases stopped
  exact permitted

theorem step (act : σ → α × σ) : FailsOnly allowed (Fallible.step act : Fallible σ ε α) :=
  fun _ _ stopped => by cases stopped

theorem bind {act : Fallible σ ε α} {next : α → Fallible σ ε β} (first : FailsOnly allowed act)
    (second : ∀ value, FailsOnly allowed (next value)) : FailsOnly allowed (act >>= next) := by
  intro s e stopped
  rw [outcome_bind] at stopped
  cases result : outcome act s with
  | error e' =>
    rw [result] at stopped
    cases stopped
    exact first s _ result
  | ok value =>
    rw [result] at stopped
    exact second value _ e stopped

end FailsOnly

/-- From a state with `pre` the action ends in a state with `inv`, stopped or not, and what it returns is `good` there. -/
def Ensures (pre inv : σ → Prop) (good : α → σ → Prop) (act : Fallible σ ε α) : Prop :=
  ∀ s, pre s → inv (after act s) ∧ ∀ value, outcome act s = .ok value → good value (after act s)

namespace Ensures

variable {pre inv : σ → Prop} {good : α → σ → Prop}

theorem pure {value : α} (kept : ∀ s, pre s → inv s ∧ good value s) :
    Ensures pre inv good (Pure.pure value : Fallible σ ε α) := by
  intro s here
  refine ⟨(kept s here).1, fun returned done => ?_⟩
  cases done
  exact (kept s here).2

theorem throw {e : ε} (kept : ∀ s, pre s → inv s) : Ensures pre inv good (MonadExcept.throw e : Fallible σ ε α) :=
  fun s here => ⟨kept s here, fun _ done => by cases done⟩

theorem step {act : σ → α × σ} (kept : ∀ s, pre s → inv (act s).2 ∧ good (act s).1 (act s).2) :
    Ensures pre inv good (Fallible.step act : Fallible σ ε α) := by
  intro s here
  refine ⟨(kept s here).1, fun returned done => ?_⟩
  cases done
  exact (kept s here).2

theorem ofExcept {result : Except ε α} (kept : ∀ s, pre s → inv s ∧ ∀ value, result = .ok value → good value s) :
    Ensures pre inv good (Fallible.ofExcept result : Fallible σ ε α) := kept

theorem bind (mid : α → σ → Prop) {last : β → σ → Prop} {act : Fallible σ ε α} {next : α → Fallible σ ε β}
    (first : Ensures pre inv mid act)
    (second : ∀ value, Ensures (fun s => inv s ∧ mid value s) inv last (next value)) :
    Ensures pre inv last (act >>= next) := by
  intro s here
  obtain ⟨kept, returned⟩ := first s here
  rw [after_bind, outcome_bind]
  cases result : outcome act s with
  | error e => exact ⟨kept, fun _ done => by cases done⟩
  | ok value => exact second value _ ⟨kept, returned value result⟩

theorem weaken {pre' : σ → Prop} {act : Fallible σ ε α} (ensured : Ensures pre inv good act) (stronger : ∀ s, pre' s → pre s) :
    Ensures pre' inv good act := fun s here => ensured s (stronger s here)

end Ensures

/-- From a state with `pre` the action returns a `good` value or stops with a `bad` error, each in the state it leaves. -/
def Triple (pre : σ → Prop) (good : α → σ → Prop) (bad : ε → σ → Prop) (act : Fallible σ ε α) : Prop :=
  ∀ s, pre s → (∀ value, outcome act s = .ok value → good value (after act s)) ∧
    ∀ e, outcome act s = .error e → bad e (after act s)

namespace Triple

variable {pre : σ → Prop} {good : α → σ → Prop} {bad : ε → σ → Prop}

theorem pure {value : α} (kept : ∀ s, pre s → good value s) : Triple pre good bad (Pure.pure value : Fallible σ ε α) := by
  refine fun s here => ⟨fun returned done => ?_, nofun⟩
  cases done
  exact kept s here

theorem throw {e : ε} (kept : ∀ s, pre s → bad e s) : Triple pre good bad (MonadExcept.throw e : Fallible σ ε α) := by
  refine fun s here => ⟨nofun, fun thrown stopped => ?_⟩
  cases stopped
  exact kept s here

theorem step {act : σ → α × σ} (kept : ∀ s, pre s → good (act s).1 (act s).2) :
    Triple pre good bad (Fallible.step act : Fallible σ ε α) := by
  refine fun s here => ⟨fun returned done => ?_, nofun⟩
  cases done
  exact kept s here

theorem ofExcept {result : Except ε α} (returned : ∀ s, pre s → ∀ value, result = .ok value → good value s)
    (stopped : ∀ s, pre s → ∀ e, result = .error e → bad e s) :
    Triple pre good bad (Fallible.ofExcept result : Fallible σ ε α) :=
  fun s here => ⟨returned s here, stopped s here⟩

theorem bind (mid : α → σ → Prop) {last : β → σ → Prop} {act : Fallible σ ε α} {next : α → Fallible σ ε β}
    (first : Triple pre mid bad act) (second : ∀ value, Triple (mid value) last bad (next value)) :
    Triple pre last bad (act >>= next) := by
  intro s here
  obtain ⟨returned, stopped⟩ := first s here
  rw [after_bind, outcome_bind]
  cases result : outcome act s with
  | ok value => exact second value _ (returned value result)
  | error e =>
    refine ⟨nofun, fun e' same => ?_⟩
    cases same
    exact stopped e result

theorem weaken {pre' : σ → Prop} {act : Fallible σ ε α} (proved : Triple pre good bad act)
    (stronger : ∀ s, pre' s → pre s) : Triple pre' good bad act :=
  fun s here => proved s (stronger s here)

theorem conclude {good' : α → σ → Prop} {act : Fallible σ ε α} (proved : Triple pre good bad act)
    (implied : ∀ value s, good value s → good' value s) : Triple pre good' bad act :=
  fun s here => ⟨fun value done => implied value _ ((proved s here).1 value done), (proved s here).2⟩

end Triple

/-- Stopped or not, the action leaves what `view` shows as it was. -/
def Keeps {τ : Type} (view : σ → τ) (act : Fallible σ ε α) : Prop := ∀ s, view (after act s) = view s

namespace Keeps

variable {τ : Type} {view : σ → τ}

theorem pure (value : α) : Keeps view (Pure.pure value : Fallible σ ε α) := fun _ => rfl

theorem throw (e : ε) : Keeps view (MonadExcept.throw e : Fallible σ ε α) := fun _ => rfl

theorem ofExcept (result : Except ε α) : Keeps view (Fallible.ofExcept result) := fun _ => rfl

theorem step {act : σ → α × σ} (kept : ∀ s, view (act s).2 = view s) :
    Keeps view (Fallible.step act : Fallible σ ε α) := kept

theorem mapError {δ : Type} {convert : ε → δ} {act : Fallible σ ε α} (kept : Keeps view act) :
    Keeps view (Fallible.mapError convert act) := kept

theorem settle {δ : Type} {judge : Except ε α → Except δ β} {act : Fallible σ ε α} (kept : Keeps view act) :
    Keeps view (Fallible.settle judge act) := kept

theorem bind {act : Fallible σ ε α} {next : α → Fallible σ ε β} (first : Keeps view act)
    (second : ∀ value, Keeps view (next value)) : Keeps view (act >>= next) := by
  intro s
  rw [after_bind]
  cases outcome act s with
  | ok value => exact (second value _).trans (first s)
  | error e => exact first s

end Keeps

/-- Seen through `view`, the first action does what the second one does. -/
def Simulates {τ : Type} (view : σ → τ) (act : Fallible σ ε α) (seen : Fallible τ ε α) : Prop :=
  ∀ s, outcome seen (view s) = outcome act s ∧ after seen (view s) = view (after act s)

namespace Simulates

variable {τ : Type} {view : σ → τ}

theorem pure (value : α) : Simulates view (Pure.pure value : Fallible σ ε α) (Pure.pure value) := fun _ => ⟨rfl, rfl⟩

theorem throw (e : ε) :
    Simulates view (MonadExcept.throw e : Fallible σ ε α) (MonadExcept.throw e : Fallible τ ε α) := fun _ => ⟨rfl, rfl⟩

theorem ofExcept (result : Except ε α) : Simulates view (Fallible.ofExcept result) (Fallible.ofExcept result) :=
  fun _ => ⟨rfl, rfl⟩

theorem step {act : σ → α × σ} {seen : τ → α × τ} (same : ∀ s, seen (view s) = ((act s).1, view (act s).2)) :
    Simulates view (Fallible.step act : Fallible σ ε α) (Fallible.step seen) := by
  intro s
  rw [outcome_step, outcome_step, after_step, after_step, same s]
  exact ⟨rfl, rfl⟩

theorem bind {act : Fallible σ ε α} {seen : Fallible τ ε α} {next : α → Fallible σ ε β} {next' : α → Fallible τ ε β}
    (first : Simulates view act seen) (second : ∀ value, Simulates view (next value) (next' value)) :
    Simulates view (act >>= next) (seen >>= next') := by
  intro s
  obtain ⟨sameOutcome, sameState⟩ := first s
  rw [outcome_bind, outcome_bind, after_bind, after_bind, sameOutcome, sameState]
  cases outcome act s with
  | ok value => exact second value _
  | error e => exact ⟨rfl, rfl⟩

theorem forgive (forgiven : ε → Bool) {act : Fallible σ ε Unit} {seen : Fallible τ ε Unit}
    (same : Simulates view act seen) : Simulates view (Fallible.forgive forgiven act) (Fallible.forgive forgiven seen) := by
  intro s
  obtain ⟨sameOutcome, sameState⟩ := same s
  refine ⟨?_, sameState⟩
  rw [outcome_forgive, outcome_forgive, sameOutcome]

end Simulates

end Fallible

end MKurator.Lib
