import Mathlib.Logic.Function.Basic
import MKurator.Lib.System

/-! Many copies of one system side by side, one of which moves at a time. A run of all of them is a run of each. -/

namespace MKurator.Lib.System

universe u v w

variable {S : Type u} {A : Type v} {ι : Type w} [DecidableEq ι] {sys : System S A}

/-- An action is one of a member, and leaves the others where they are. -/
def family (sys : System S A) (ι : Type w) [DecidableEq ι] : System (ι → S) (ι × A) where
  valid states act := sys.valid (states act.1) act.2
  next states act := Function.update states act.1 (sys.next (states act.1) act.2)

def own (member : ι) (actions : List (ι × A)) : List A :=
  (actions.filter fun act => act.1 = member).map Prod.snd

theorem own_cons_self (member : ι) (action : A) (actions : List (ι × A)) :
    own member ((member, action) :: actions) = action :: own member actions := by
  rw [own, List.filter_cons_of_pos (by simp), List.map_cons]
  rfl

theorem own_cons_of_ne {member other : ι} (apart : other ≠ member) (action : A) (actions : List (ι × A)) :
    own member ((other, action) :: actions) = own member actions := by
  rw [own, List.filter_cons_of_neg (by simpa using apart)]
  rfl

variable {allowed : S → A → Prop} {allowed' : (ι → S) → ι × A → Prop} {member : ι}

theorem Reach.of_family {first last : ι → S} (run : (sys.family ι).Reach allowed' first last)
    (implied : ∀ states action, allowed' states (member, action) → allowed (states member) action) :
    sys.Reach allowed (first member) (last member) := by
  refine run.invariant (fun states => sys.Reach allowed (first member) (states member)) .start ?_
  rintro states ⟨other, action⟩ earlier valid permitted
  change sys.Reach allowed (first member) (Function.update states other _ member)
  by_cases here : member = other
  · subst here
    rw [Function.update_self]
    exact earlier.step action valid (implied states action permitted)
  · rw [Function.update_of_ne here]
    exact earlier

/-- What the other members do makes no difference to one of them. -/
theorem Follows.of_family {states : ι → S} {actions : List (ι × A)} (follows : (sys.family ι).Follows allowed' states actions)
    (implied : ∀ states action, allowed' states (member, action) → allowed (states member) action) :
    sys.Follows allowed (states member) (own member actions) ∧
      actions.foldl (sys.family ι).next states member = (own member actions).foldl sys.next (states member) := by
  induction actions generalizing states with
  | nil => exact ⟨trivial, rfl⟩
  | cons act later ih =>
    obtain ⟨other, action⟩ := act
    obtain ⟨valid, permitted, rest⟩ := follows
    obtain ⟨runs, ends⟩ := ih rest
    rw [List.foldl_cons, ends]
    by_cases here : other = member
    · subst here
      have moved : (sys.family ι).next states (other, action) other = sys.next (states other) action := Function.update_self ..
      rw [moved] at runs ⊢
      rw [own_cons_self]
      exact ⟨⟨valid, implied states action permitted, runs⟩, rfl⟩
    · have still : (sys.family ι).next states (other, action) member = states member :=
        Function.update_of_ne (Ne.symm here) ..
      rw [still] at runs ⊢
      rw [own_cons_of_ne here]
      exact ⟨runs, rfl⟩

theorem own_map (member : ι) (actions : List A) : own member (actions.map fun action => (member, action)) = actions := by
  induction actions with
  | nil => rfl
  | cons action later ih => rw [List.map_cons, own_cons_self, ih]

theorem Follows.family {states : ι → S} {actions : List A} (follows : sys.Follows allowed (states member) actions)
    (implied : ∀ states action, allowed (states member) action → allowed' states (member, action)) :
    (sys.family ι).Follows allowed' states (actions.map fun action => (member, action)) := by
  induction actions generalizing states with
  | nil => trivial
  | cons action later ih =>
    obtain ⟨valid, permitted, rest⟩ := follows
    have moved : (sys.family ι).next states (member, action) member = sys.next (states member) action :=
      Function.update_self ..
    exact ⟨valid, implied states action permitted, ih (moved.symm ▸ rest)⟩

end MKurator.Lib.System
