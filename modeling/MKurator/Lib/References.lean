import Mathlib.Data.List.AList

/-! Stores whose values refer to each other by key, and the changes that leave no reference dangling. -/

namespace MKurator.Lib.References

variable {K V : Type} [DecidableEq K] (refers : V → Option K) (alive : V → Prop)

def Intact (store : AList fun _ : K => V) : Prop :=
  ∀ key value, store.lookup key = some value → ∀ target, refers value = some target →
    ∃ found, store.lookup target = some found ∧ alive found

def Unused (store : AList fun _ : K => V) (key : K) : Prop :=
  ∀ other value, store.lookup other = some value → refers value ≠ some key

variable {refers alive} {store : AList fun _ : K => V} {key : K}

theorem Intact.empty : Intact refers alive (∅ : AList fun _ : K => V) := by
  intro key value found
  rw [AList.lookup_empty] at found
  cases found

/-- A value may be put in place if its own reference is good, and if those to its key stay good. -/
theorem Intact.insert (intact : Intact refers alive store) {value : V}
    (points : ∀ target, refers value = some target →
      target ≠ key ∧ ∃ found, store.lookup target = some found ∧ alive found)
    (kept : alive value ∨ Unused refers store key) : Intact refers alive (store.insert key value) := by
  intro other stored present target reference
  by_cases here : other = key
  · rw [here, AList.lookup_insert] at present
    cases present
    obtain ⟨apart, found, there, living⟩ := points target reference
    exact ⟨found, by rw [AList.lookup_insert_ne apart, there], living⟩
  · rw [AList.lookup_insert_ne here] at present
    by_cases aimed : target = key
    · rcases kept with living | unused
      · exact ⟨value, by rw [aimed, AList.lookup_insert], living⟩
      · exact absurd (aimed ▸ reference) (unused other stored present)
    · obtain ⟨found, there, living⟩ := intact other stored present target reference
      exact ⟨found, by rw [AList.lookup_insert_ne aimed, there], living⟩

theorem Intact.erase (intact : Intact refers alive store) (unused : Unused refers store key) :
    Intact refers alive (store.erase key) := by
  intro other stored present target reference
  have apart : other ≠ key := by
    rintro rfl
    rw [AList.lookup_erase] at present
    cases present
  rw [AList.lookup_erase_ne apart] at present
  have aimed : target ≠ key := fun same => unused other stored present (same ▸ reference)
  obtain ⟨found, there, living⟩ := intact other stored present target reference
  exact ⟨found, by rw [AList.lookup_erase_ne aimed, there], living⟩

theorem Intact.unused (intact : Intact refers alive store) {value : V} (stored : store.lookup key = some value)
    (dead : ¬ alive value) : Unused refers store key := by
  intro other source present reference
  obtain ⟨found, there, living⟩ := intact other source present key reference
  rw [stored] at there
  cases there
  exact dead living

end MKurator.Lib.References
