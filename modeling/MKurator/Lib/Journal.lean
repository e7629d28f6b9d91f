import Mathlib.Data.List.Basic

/-! A record of what happened, in order, in which each entry was allowed by the entries before it. -/

namespace MKurator.Lib.Journal

variable {α : Type} {allows : List α → α → Prop} {journal : List α}

inductive Lawful (allows : List α → α → Prop) : List α → Prop
  | nil : Lawful allows []
  | snoc {journal : List α} {entry : α} (earlier : Lawful allows journal) (allowed : allows journal entry) :
      Lawful allows (journal ++ [entry])

namespace Lawful

theorem add (lawful : Lawful allows journal) {entry : Option α} (allowed : ∀ new, entry = some new → allows journal new) :
    Lawful allows (journal ++ entry.toList) := by
  cases entry with
  | none => rwa [Option.toList_none, List.append_nil]
  | some new => exact lawful.snoc (allowed new rfl)

theorem allowed_at (lawful : Lawful allows journal) {before after : List α} {entry : α}
    (split : journal = before ++ entry :: after) : allows before entry := by
  induction lawful generalizing after with
  | nil => exact absurd split.symm (List.append_ne_nil_of_right_ne_nil _ (List.cons_ne_nil _ _))
  | snoc earlier allowed ih =>
    rcases List.eq_nil_or_concat after with rfl | ⟨rest, last, rfl⟩
    · obtain ⟨rfl, same⟩ := List.append_inj' split rfl
      rwa [← List.singleton_inj.mp same]
    · rw [List.concat_eq_append, ← List.cons_append, ← List.append_assoc] at split
      exact ih (List.append_inj' split rfl).1

end Lawful

end MKurator.Lib.Journal
