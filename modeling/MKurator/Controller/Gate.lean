import MKurator.Controller.Effects
import MKurator.Controller.Kinds

/-! The guards that every kind enforces in one reconcile: when it may write to the queue manager, and when it may give
up its finalizer. -/

namespace MKurator.Controller
open MKurator.Api MKurator.MqAdmin MKurator.Lib MKurator.Lib.Strings

section Protocol

variable (K : Kind) (env : Env K.Spec K.MQSpec K.State)

theorem filter_isMQWrite_calls {α : Type} (out : Traced (Call K.Spec K.MQSpec) α) :
    out.calls.filter Call.isMQWrite = (writes out).filter Call.isMQWrite := by
  rw [writes, List.filter_filter]
  congr 1
  funext call
  cases call <;> rfl

/-- What a reconcile must have found before it defines or sets an object. -/
structure DefineGuard (obj : Workload K.Spec) (admin : Admin K.MQSpec K.State) (keys : List String) : Prop where
  unsuspended : workloadSuspended obj = false
  live : obj.metadata.deletionTimestamp = none
  finalizer : K.finalizer ∈ obj.metadata.finalizers
  connection : ∃ conn, env.connection (connectionRefName obj) = .found conn ∧
    conditionsReady conn.conditions = true ∧ env.forConnection conn = .ok admin
  resolved : K.driftKeys admin (K.toMQ obj.spec) = .ok keys
  acting : isObserveOnly obj = false
  unblocked : K.adoptionBlock keys obj (K.toMQ obj.spec) (K.observed admin (K.toMQ obj.spec)) = none
  /-- GET answered, and either found nothing or found a drift-checked value that differs. -/
  answered : ∀ e, (admin.get (K.toMQ obj.spec)).2 = some e → e.isNotFound = true
  needed : (admin.get (K.toMQ obj.spec)).1 = none ∨
    ∃ state, (admin.get (K.toMQ obj.spec)).1 = some state ∧ K.differs keys (K.toMQ obj.spec) state = true

variable [UnicodeTables]

theorem define_guard (obj : Workload K.Spec) {spec : K.MQSpec}
    (called : .define spec ∈ (reconcileWorkload K env obj).calls) :
    spec = K.toMQ obj.spec ∧ ∃ admin keys, DefineGuard K env obj admin keys := by
  rw [mem_writes rfl] at called
  have guard : ∀ admin keys, EnsureGate K env obj admin → Observation K obj admin keys → isObserveOnly obj = false →
      K.needsUpdate keys (K.toMQ obj.spec) (K.observed admin (K.toMQ obj.spec)) = true →
      K.adoptionBlock keys obj (K.toMQ obj.spec) (K.observed admin (K.toMQ obj.spec)) = none →
      DefineGuard K env obj admin keys := by
    intro admin keys gate seen acting needed permitted
    refine ⟨gate.unsuspended, gate.live, gate.finalizer, gate.reaches, seen.resolved, acting, permitted, seen.answered, ?_⟩
    rw [KindBase.observed] at needed
    cases state : (admin.get (K.toMQ obj.spec)).1 with
    | none => exact .inl rfl
    | some found =>
      rw [state] at needed
      exact .inr ⟨found, rfl, needed⟩
  have shape := reconcileWorkload_cases K env obj
  generalize writes (reconcileWorkload K env obj) = written at shape called
  cases shape with
  | defineFailed admin keys gate seen acting needed permitted =>
    exact ⟨by simpa using called, admin, keys, guard admin keys gate seen acting needed permitted⟩
  | defined admin keys gate seen acting needed permitted =>
    exact ⟨by simpa using called, admin, keys, guard admin keys gate seen acting needed permitted⟩
  | _ => simp at called

theorem delete_guard (obj : Workload K.Spec) {spec : K.MQSpec}
    (called : .delete spec ∈ (reconcileWorkload K env obj).calls) :
    spec = K.toMQ obj.spec ∧ ∃ admin, DeleteGate K env obj admin := by
  rw [mem_writes rfl] at called
  have shape := reconcileWorkload_cases K env obj
  generalize writes (reconcileWorkload K env obj) = written at shape called
  cases shape with
  | deleteFailed admin gate => exact ⟨by simpa using called, admin, gate⟩
  | deleted admin gate => exact ⟨by simpa using called, admin, gate⟩
  | _ => simp at called

theorem finalizer_guard (obj new : Workload K.Spec) (called : .update new ∈ (reconcileWorkload K env obj).calls)
    (removed : K.finalizer ∉ new.metadata.finalizers) :
    orphanDeletionRequested obj = true ∨
      ∃ admin, Reaches K env obj admin ∧ .delete (K.toMQ obj.spec) ∈ (reconcileWorkload K env obj).calls ∧
        (admin.delete (K.toMQ obj.spec)).err = none := by
  rw [mem_writes rfl] at called
  rw [mem_writes rfl]
  have shape := reconcileWorkload_cases K env obj
  generalize writes (reconcileWorkload K env obj) = written at shape called
  cases shape with
  | finalizerAdded unsuspended live absent =>
    have same : new = addFinalizer obj K.finalizer := by simpa using called
    refine absurd ?_ removed
    rw [same, addFinalizer, containsFinalizer, decide_eq_false absent]
    simp
  | deleted admin gate success => exact .inr ⟨admin, gate.reaches, by simp, success⟩
  | orphaned unsuspended deleting finalizer requested => exact .inl requested
  | _ => simp at called

theorem one_mq_write (obj : Workload K.Spec) :
    ((reconcileWorkload K env obj).calls.filter Call.isMQWrite).length ≤ 1 := by
  rw [filter_isMQWrite_calls]
  have shape := reconcileWorkload_cases K env obj
  generalize writes (reconcileWorkload K env obj) = written at shape
  cases shape <;> simp [List.filter_cons, Call.isMQWrite]

end Protocol

/-- One reconcile of any kind, whatever it reads and however its writes are answered: it defines or sets only behind
the define guard, deletes only behind the delete guard, gives up its finalizer only after an orphan request or a
successful delete in the same reconcile, and changes at most one MQ object. -/
theorem reconcile_write_protocol [UnicodeTables] (k : WorkloadKind)
    (env : Env (reconcilerOf k).Spec (reconcilerOf k).MQSpec (reconcilerOf k).State) :
    (∀ spec, .define spec ∈ (reconcile (reconcilerOf k) env).calls →
      ∃ obj, env.object = .found obj ∧ spec = (reconcilerOf k).toMQ obj.spec ∧
        ∃ admin keys, DefineGuard (reconcilerOf k) env obj admin keys) ∧
    (∀ spec, .delete spec ∈ (reconcile (reconcilerOf k) env).calls →
      ∃ obj, env.object = .found obj ∧ spec = (reconcilerOf k).toMQ obj.spec ∧
        ∃ admin, DeleteGate (reconcilerOf k) env obj admin) ∧
    (∀ new, .update new ∈ (reconcile (reconcilerOf k) env).calls →
      (reconcilerOf k).finalizer ∉ new.metadata.finalizers →
      ∃ obj, env.object = .found obj ∧ (orphanDeletionRequested obj = true ∨
        ∃ admin, Reaches (reconcilerOf k) env obj admin ∧
          .delete ((reconcilerOf k).toMQ obj.spec) ∈ (reconcile (reconcilerOf k) env).calls ∧
          (admin.delete ((reconcilerOf k).toMQ obj.spec)).err = none)) ∧
    ((reconcile (reconcilerOf k) env).calls.filter Call.isMQWrite).length ≤ 1 := by
  unfold reconcile
  cases object : env.object with
  | notFound e => simp
  | failed e => simp
  | found obj =>
    refine ⟨fun spec called => ?_, fun spec called => ?_, fun new called removed => ?_, one_mq_write _ env obj⟩
    · obtain ⟨same, guard⟩ := define_guard _ env obj called
      exact ⟨obj, rfl, same, guard⟩
    · obtain ⟨same, guard⟩ := delete_guard _ env obj called
      exact ⟨obj, rfl, same, guard⟩
    · exact ⟨obj, rfl, finalizer_guard _ env obj new called removed⟩

end MKurator.Controller
