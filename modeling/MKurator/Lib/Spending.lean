import MKurator.Lib.Fallible

/-! What an action can cost. A cost is any number that the state shows; an action has a budget if it raises that number by
no more than it, whether it stops or not. -/

namespace MKurator.Lib.Fallible

variable {σ ε α β : Type} {cost : σ → Nat}

def Spends (cost : σ → Nat) (budget : Nat) (act : Fallible σ ε α) : Prop := ∀ s, cost (after act s) ≤ cost s + budget

namespace Spends

theorem pure (value : α) : Spends cost 0 (Pure.pure value : Fallible σ ε α) := fun _ => Nat.le_refl _

theorem throw (e : ε) : Spends cost 0 (MonadExcept.throw e : Fallible σ ε α) := fun _ => Nat.le_refl _

theorem ofExcept (result : Except ε α) : Spends cost 0 (Fallible.ofExcept result : Fallible σ ε α) :=
  fun _ => Nat.le_refl _

theorem step {act : σ → α × σ} {n : Nat} (spent : ∀ s, cost (act s).2 ≤ cost s + n) :
    Spends cost n (Fallible.step act : Fallible σ ε α) := spent

theorem bind {act : Fallible σ ε α} {next : α → Fallible σ ε β} {n m : Nat} (first : Spends cost n act)
    (second : ∀ value, Spends cost m (next value)) : Spends cost (n + m) (act >>= next) := by
  intro s
  have so_far := first s
  rw [after_bind]
  cases outcome act s with
  | ok value =>
    have rest := second value (after act s)
    simp only
    omega
  | error e =>
    simp only
    omega

theorem weaken {act : Fallible σ ε α} {n m : Nat} (spent : Spends cost n act) (enough : n ≤ m) : Spends cost m act :=
  fun s => Nat.le_trans (spent s) (Nat.add_le_add_left enough _)

theorem after_free {act : Fallible σ ε α} {next : α → Fallible σ ε β} {n : Nat} (first : Spends cost 0 act)
    (second : ∀ value, Spends cost n (next value)) : Spends cost n (act >>= next) :=
  (first.bind second).weaken (Nat.le_of_eq (Nat.zero_add n))

theorem before_free {act : Fallible σ ε α} {next : α → Fallible σ ε β} {n : Nat} (first : Spends cost n act)
    (second : ∀ value, Spends cost 0 (next value)) : Spends cost n (act >>= next) := first.bind second

theorem mapError {δ : Type} {convert : ε → δ} {act : Fallible σ ε α} {n : Nat} (spent : Spends cost n act) :
    Spends cost n (Fallible.mapError convert act) := spent

theorem settle {δ : Type} {judge : Except ε α → Except δ β} {act : Fallible σ ε α} {n : Nat} (spent : Spends cost n act) :
    Spends cost n (Fallible.settle judge act) := spent

theorem forgive {forgiven : ε → Bool} {act : Fallible σ ε Unit} {n : Nat} (spent : Spends cost n act) :
    Spends cost n (Fallible.forgive forgiven act) := spent

theorem focus {τ : Type} {part : τ → σ} {replace : τ → σ → τ} (got : ∀ t s, part (replace t s) = s)
    {act : Fallible σ ε α} {n : Nat} (spent : Spends cost n act) :
    Spends (fun t => cost (part t)) n (Fallible.focus part replace act) := by
  intro t
  have inside := spent (part t)
  rw [← got t (after act (part t))] at inside
  exact inside

end Spends

end MKurator.Lib.Fallible
