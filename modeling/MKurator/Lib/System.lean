import Mathlib.Logic.Relation

/-! Transition systems with labelled steps, and what holds in every state of a run all of whose steps are allowed. -/

namespace MKurator.Lib

universe u v

/-- `next` takes a state and an action to the state after it; `valid` tells which actions a state can take. -/
structure System (S : Type u) (A : Type v) where
  valid : S → A → Prop
  next : S → A → S

namespace System

variable {S : Type u} {A : Type v} (sys : System S A)

def Step (allowed : S → A → Prop) (before after : S) : Prop :=
  ∃ action, sys.valid before action ∧ allowed before action ∧ after = sys.next before action

def Reach (allowed : S → A → Prop) : S → S → Prop := Relation.ReflTransGen (sys.Step allowed)

variable {sys} {allowed : S → A → Prop} {first last : S}

theorem Reach.start : sys.Reach allowed first first := Relation.ReflTransGen.refl

theorem Reach.step (run : sys.Reach allowed first last) (action : A) (valid : sys.valid last action)
    (permitted : allowed last action) : sys.Reach allowed first (sys.next last action) :=
  Relation.ReflTransGen.tail run ⟨action, valid, permitted, rfl⟩

/-- What the start satisfies and every allowed step keeps holds in every state reached. -/
theorem Reach.invariant (inv : S → Prop) (run : sys.Reach allowed first last) (initially : inv first)
    (kept : ∀ state action, inv state → sys.valid state action → allowed state action → inv (sys.next state action)) :
    inv last := by
  induction run with
  | refl => exact initially
  | tail earlier step ih =>
    obtain ⟨action, valid, permitted, rfl⟩ := step
    exact kept _ action ih valid permitted

theorem Reach.mono {allowed' : S → A → Prop} (run : sys.Reach allowed first last)
    (implied : ∀ state action, allowed state action → allowed' state action) : sys.Reach allowed' first last := by
  induction run with
  | refl => exact Reach.start
  | tail earlier step ih =>
    obtain ⟨action, valid, permitted, rfl⟩ := step
    exact ih.step action valid (implied _ action permitted)

def Follows (sys : System S A) (allowed : S → A → Prop) : S → List A → Prop
  | _, [] => True
  | state, action :: later => sys.valid state action ∧ allowed state action ∧ sys.Follows allowed (sys.next state action) later

theorem Reach.follow (run : sys.Reach allowed first last) (actions : List A) (follows : sys.Follows allowed last actions) :
    sys.Reach allowed first (actions.foldl sys.next last) := by
  induction actions generalizing last with
  | nil => exact run
  | cons action later ih => exact ih (run.step action follows.1 follows.2.1) follows.2.2

/-- Levels that every step keeps and some steps raise: so many of those steps raise the level by their number. -/
theorem Follows.level (level : Nat → S → Prop) (raises : A → Bool)
    (kept : ∀ n state action, level n state → sys.valid state action → allowed state action →
      level n (sys.next state action))
    (raised : ∀ n state action, raises action = true → level n state → sys.valid state action → allowed state action →
      level (n + 1) (sys.next state action))
    {n : Nat} {actions : List A} (follows : sys.Follows allowed first actions) (initially : level n first) :
    level (n + actions.countP raises) (actions.foldl sys.next first) := by
  induction actions generalizing first n with
  | nil => exact initially
  | cons action later ih =>
    obtain ⟨valid, permitted, rest⟩ := follows
    rw [List.foldl_cons, List.countP_cons]
    cases counts : raises action with
    | false => exact ih rest (kept n first action initially valid permitted)
    | true =>
      have next := ih rest (raised n first action counts initially valid permitted)
      rwa [Nat.add_right_comm] at next

end System

end MKurator.Lib
