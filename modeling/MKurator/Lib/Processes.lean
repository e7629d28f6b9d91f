import Mathlib.Data.List.Basic

/-! The processes in progress, as a list in which one of them moves on or ends. -/

namespace MKurator.Lib.Processes

variable {α : Type} {running : List α} {index : Nat} {process : α}

theorem split_at (found : running[index]? = some process) :
    ∃ before after, running = before ++ process :: after ∧ running.eraseIdx index = before ++ after ∧
      ∀ later, running.set index later = before ++ later :: after := by
  obtain ⟨bound, rfl⟩ := List.getElem?_eq_some_iff.mp found
  refine ⟨running.take index, running.drop (index + 1), ?_, List.eraseIdx_eq_take_drop_succ _ _, fun later => ?_⟩
  · rw [List.getElem_cons_drop, List.take_append_drop]
  · exact List.set_eq_take_append_cons_drop.trans (if_pos bound)

theorem forall_set {p : α → Prop} (all : ∀ other ∈ running, p other) {later : α} (holds : p later) :
    ∀ other ∈ running.set index later, p other := by
  intro other member
  rcases List.mem_or_eq_of_mem_set member with old | rfl
  · exact all other old
  · exact holds

end MKurator.Lib.Processes
