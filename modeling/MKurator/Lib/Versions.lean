import Mathlib.Order.Basic
import MKurator.Lib.Maps

/-! A store whose versions grow with every write. Whoever has once read a version reads no older one later. -/

namespace MKurator.Lib.Versions
open MKurator.Lib.Maps

/-- The objects in the store, all that were ever written, and the version of the last write. -/
structure Store (κ α : Type) where
  current : AList fun _ : κ => α
  written : List (κ × α)
  version : Nat

def AtLeast (low high : Option Nat) : Prop := ∀ v, low = some v → ∃ later, high = some later ∧ v ≤ later

theorem AtLeast.of_le {v later : Nat} (le : v ≤ later) : AtLeast (some v) (some later) := by
  rintro _ ⟨⟩
  exact ⟨later, rfl, le⟩

theorem AtLeast.le {v later : Nat} (low : AtLeast (some v) (some later)) : v ≤ later := by
  obtain ⟨_, ⟨⟩, le⟩ := low v rfl
  exact le

theorem AtLeast.refl (v : Option Nat) : AtLeast v v := fun n given => ⟨n, given, le_refl n⟩

theorem AtLeast.trans {low middle high : Option Nat} (first : AtLeast low middle) (second : AtLeast middle high) :
    AtLeast low high := by
  intro v given
  obtain ⟨between, found, le⟩ := first v given
  obtain ⟨later, found', le'⟩ := second between found
  exact ⟨later, found', le.trans le'⟩

namespace Store

variable {κ α : Type} [DecidableEq κ]

def empty : Store κ α := ⟨∅, [], 0⟩

def write (store : Store κ α) (key : κ) (make : Nat → α) : Store κ α where
  current := store.current.insert key (make (store.version + 1))
  written := (key, make (store.version + 1)) :: store.written
  version := store.version + 1

def delete (store : Store κ α) (key : κ) : Store κ α :=
  { store with current := store.current.erase key, version := store.version + 1 }

variable (versionOf : α → Nat) (store : Store κ α)

def versionAt (key : κ) : Option Nat := (store.current.lookup key).map versionOf

structure Sound : Prop where
  recorded : ∀ key object, store.current.lookup key = some object → (key, object) ∈ store.written
  bounded : ∀ key object, store.current.lookup key = some object → versionOf object ≤ store.version

/-- From now on no read finds a version older than `low`. -/
def NoOlder (key : κ) (low : Option Nat) : Prop :=
  ∀ v, low = some v → v ≤ store.version ∧ ∀ object, store.current.lookup key = some object → v ≤ versionOf object

variable {versionOf store} {key : κ} {low : Option Nat} {object : α}

theorem sound_empty : (empty : Store κ α).Sound versionOf where
  recorded _ _ found := by cases found
  bounded _ _ found := by cases found

theorem Sound.write (sound : store.Sound versionOf) {make : Nat → α} (stamped : ∀ v, versionOf (make v) = v) (changed : κ) :
    (store.write changed make).Sound versionOf where
  recorded key object found := by
    rcases lookup_insert_cases found with ⟨rfl, rfl⟩ | ⟨-, before⟩
    · exact List.mem_cons_self ..
    · exact List.mem_cons_of_mem _ (sound.recorded key object before)
  bounded key object found := by
    rcases lookup_insert_cases found with ⟨-, rfl⟩ | ⟨-, before⟩
    · exact le_of_eq (stamped _)
    · exact (sound.bounded key object before).trans (Nat.le_succ _)

theorem Sound.delete (sound : store.Sound versionOf) (gone : κ) : (store.delete gone).Sound versionOf where
  recorded key object found := sound.recorded key object (lookup_erase_cases found).2
  bounded key object found := (sound.bounded key object (lookup_erase_cases found).2).trans (Nat.le_succ _)

theorem NoOlder.write (noOlder : store.NoOlder versionOf key low) {make : Nat → α} (stamped : ∀ v, versionOf (make v) = v)
    (changed : κ) : (store.write changed make).NoOlder versionOf key low := by
  intro v given
  obtain ⟨bound, reads⟩ := noOlder v given
  refine ⟨bound.trans (Nat.le_succ _), fun object found => ?_⟩
  rcases lookup_insert_cases found with ⟨-, rfl⟩ | ⟨-, before⟩
  · rw [stamped]
    exact bound.trans (Nat.le_succ _)
  · exact reads object before

theorem NoOlder.delete (noOlder : store.NoOlder versionOf key low) (gone : κ) :
    (store.delete gone).NoOlder versionOf key low := by
  intro v given
  obtain ⟨bound, reads⟩ := noOlder v given
  exact ⟨bound.trans (Nat.le_succ _), fun object found => reads object (lookup_erase_cases found).2⟩

theorem NoOlder.read (noOlder : store.NoOlder versionOf key low) (found : store.current.lookup key = some object) :
    AtLeast low (some (versionOf object)) :=
  fun v given => ⟨_, rfl, (noOlder v given).2 object found⟩

theorem Sound.noOlder (sound : store.Sound versionOf) (found : store.current.lookup key = some object) :
    store.NoOlder versionOf key (some (versionOf object)) := by
  rintro _ ⟨⟩
  refine ⟨sound.bounded key object found, fun other again => ?_⟩
  rw [Option.some.inj (found.symm.trans again)]

theorem Sound.noOlder_versionAt (sound : store.Sound versionOf) (key : κ) :
    store.NoOlder versionOf key (store.versionAt versionOf key) := by
  cases found : store.current.lookup key with
  | none =>
    intro v given
    rw [versionAt, found] at given
    cases given
  | some object =>
    rw [versionAt, found]
    exact sound.noOlder found

variable (versionOf) in
/-- What was written before is on record later, and what no read could find before it does not find later. -/
structure Later (store later : Store κ α) : Prop where
  written : store.written ⊆ later.written
  noOlder : ∀ key low, store.NoOlder versionOf key low → later.NoOlder versionOf key low

theorem Later.refl (store : Store κ α) : Later versionOf store store := ⟨fun _ known => known, fun _ _ known => known⟩

theorem later_write {make : Nat → α} (stamped : ∀ v, versionOf (make v) = v) (changed : κ) :
    Later versionOf store (store.write changed make) :=
  ⟨List.subset_cons_self .., fun _ _ noOlder => noOlder.write stamped changed⟩

theorem later_delete (gone : κ) : Later versionOf store (store.delete gone) :=
  ⟨fun _ known => known, fun _ _ noOlder => noOlder.delete gone⟩

end Store

end MKurator.Lib.Versions
