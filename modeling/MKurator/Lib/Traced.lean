import Mathlib.Data.List.Basic

/-! Programs that record the external calls they make, in order, and return a value. -/

namespace MKurator.Lib

universe u v

/-- A finished computation: the calls it made, then its result. -/
structure Traced (κ : Type u) (α : Type v) where
  calls : List κ
  value : α

namespace Traced

variable {κ : Type u} {α : Type v} {β : Type v}

instance : Monad (Traced κ) where
  pure a := ⟨[], a⟩
  bind x next := ⟨x.calls ++ (next x.value).calls, (next x.value).value⟩

def call (c : κ) (answer : α) : Traced κ α := ⟨[c], answer⟩

@[simp] theorem calls_pure (a : α) : (pure a : Traced κ α).calls = [] := rfl

@[simp] theorem value_pure (a : α) : (pure a : Traced κ α).value = a := rfl

@[simp] theorem calls_bind (x : Traced κ α) (next : α → Traced κ β) :
    (x >>= next).calls = x.calls ++ (next x.value).calls := rfl

@[simp] theorem value_bind (x : Traced κ α) (next : α → Traced κ β) :
    (x >>= next).value = (next x.value).value := rfl

@[simp] theorem calls_call (c : κ) (answer : α) : (call c answer).calls = [c] := rfl

@[simp] theorem value_call (c : κ) (answer : α) : (call c answer).value = answer := rfl

end Traced

end MKurator.Lib
