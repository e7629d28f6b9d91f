import MKurator.Controller.Gate

/-! The orphan escape hatch: a deleting resource gives up its finalizer without contacting anything but the API server.
Suspension is looked at first, so the hatch stays shut while the resource is suspended. -/

namespace MKurator.Controller
open MKurator.Api MKurator.MqAdmin MKurator.Lib MKurator.Lib.Strings

/-- A call that neither reaches the queue manager nor looks for the connection or its Secrets. -/
def Call.StaysInCluster {σ μ : Type} (call : Call σ μ) : Prop := call.isMQ = false ∧ call.isConnectionLookup = false

section Calls

variable {σ μ τ : Type}

theorem patchSyncedStatus_staysInCluster (env : Env σ μ τ) (n : Nat) (obj : Workload σ) (patch : SyncedStatusPatch) :
    ∀ call ∈ (patchSyncedStatus env n obj patch).calls, call.StaysInCluster := by
  intro call member
  have kinds : (∃ reason message, call = .event false reason message) ∨ ∃ new, call = .statusUpdate new := by
    unfold patchSyncedStatus emitSyncedTransitionEvent at member
    cases emits : patch.emitEvent with
    | false =>
      simp [emits] at member
      exact .inr ⟨_, member⟩
    | true =>
      cases changed : conditionChanged obj.status.conditions conditionSynced patch.conditionStatus patch.reason with
      | false =>
        simp [emits, changed] at member
        exact .inr ⟨_, member⟩
      | true =>
        simp [emits, changed] at member
        rcases member with same | same
        · exact .inl ⟨_, _, same⟩
        · exact .inr ⟨_, same⟩
  rcases kinds with ⟨reason, message, rfl⟩ | ⟨new, rfl⟩
  · exact ⟨rfl, rfl⟩
  · exact ⟨rfl, rfl⟩

theorem orphanFinalizeWorkload_staysInCluster (env : Env σ μ τ) (obj : Workload σ) (finalizer message : String) :
    ∀ call ∈ (orphanFinalizeWorkload env obj finalizer message).calls, call.StaysInCluster := by
  intro call member
  unfold orphanFinalizeWorkload patchSyncedOrphaned at member
  simp only [Traced.calls_bind, value_patchSyncedStatus, List.mem_append] at member
  rcases member with patching | later
  · exact patchSyncedStatus_staysInCluster _ _ _ _ call patching
  · cases answer : (env.statusUpdate 0).err with
    | some e => simp [answer] at later
    | none =>
      simp [answer] at later
      rcases later with rfl | rfl
      · exact ⟨rfl, rfl⟩
      · exact ⟨rfl, rfl⟩

theorem orphanFinalizeWorkload_removes (env : Env σ μ τ) (obj : Workload σ) (finalizer message : String)
    (written : env.statusUpdate 0 = .ok) (updated : env.update = .ok) :
    (∃ new, .update new ∈ (orphanFinalizeWorkload env obj finalizer message).calls ∧
      finalizer ∉ new.metadata.finalizers) ∧
    (orphanFinalizeWorkload env obj finalizer message).value.err = none := by
  unfold orphanFinalizeWorkload patchSyncedOrphaned
  constructor
  · refine ⟨removeFinalizer (applyPatch env.now obj (reportPatch reasonOrphaned message none true)) finalizer, ?_, ?_⟩
    · simp [written, WriteAnswer.err]
    · simp [removeFinalizer]
  · simp [written, updated, WriteAnswer.err]

theorem update_not_mem_suspended (env : Env σ μ τ) (obj new : Workload σ) :
    .update new ∉ (reconcileWorkloadSuspended env obj).calls := by
  rw [mem_writes rfl]
  unfold reconcileWorkloadSuspended patchSyncedSuspended
  split <;> simp

end Calls

/-- The reconcile removes the finalizer without an error, and contacts neither the queue manager nor the connection and
its Secrets. -/
def OrphansLocally [UnicodeTables] (K : Kind) (env : Env K.Spec K.MQSpec K.State) : Prop :=
  ((∃ new, .update new ∈ (reconcile K env).calls ∧ K.finalizer ∉ new.metadata.finalizers) ∧
      (reconcile K env).value.err = none) ∧
    ∀ call ∈ (reconcile K env).calls, call.StaysInCluster

/-- For a deleting resource that asks for orphaning, with every API server write answered, the next reconcile orphans it
exactly when it is not suspended. -/
theorem orphansLocally_iff_not_suspended [UnicodeTables] (k : WorkloadKind)
    (env : Env (reconcilerOf k).Spec (reconcilerOf k).MQSpec (reconcilerOf k).State)
    (obj : Workload (reconcilerOf k).Spec) (read : env.object = .found obj)
    (deleting : obj.metadata.deletionTimestamp.isSome = true)
    (finalizer : (reconcilerOf k).finalizer ∈ obj.metadata.finalizers)
    (requested : orphanDeletionRequested obj = true)
    (statusWrites : ∀ n, env.statusUpdate n = .ok) (updates : env.update = .ok) :
    OrphansLocally (reconcilerOf k) env ↔ workloadSuspended obj = false := by
  unfold OrphansLocally reconcile reconcileWorkload
  simp only [read]
  cases suspended : workloadSuspended obj with
  | true =>
    simp only [if_true]
    constructor
    · rintro ⟨⟨⟨new, called, -⟩, -⟩, -⟩
      exact absurd called (update_not_mem_suspended env obj new)
    · intro absurdity
      cases absurdity
  | false =>
    simp only [Bool.false_eq_true, if_false, deleting, if_true, iff_true]
    unfold reconcileWorkloadDeletion
    simp only [containsFinalizer, finalizer, decide_true, Bool.not_true, Bool.false_eq_true, if_false, requested,
      if_true]
    exact ⟨orphanFinalizeWorkload_removes env obj _ _ (statusWrites 0) updates,
      orphanFinalizeWorkload_staysInCluster env obj _ _⟩

def abandonedQueue (suspend : Bool) : Workload Api.QueueSpec :=
  { ordersQueue none with
    metadata :=
      { (ordersQueue none).metadata with
        generation := 2
        deletionTimestamp := some 100
        annotations := (∅ : StringMap).insert forceOrphanAnnotation "true" }
    spec := { (ordersQueue none).spec with suspend := suspend } }

def connectionGone (obj : Workload Api.QueueSpec) : Env Api.QueueSpec MqAdmin.QueueSpec QueueState where
  now := 200
  intervals := ⟨15, 30, 300, Nat.succ_pos _, Nat.succ_pos _, Nat.succ_pos _⟩
  object := .found obj
  connection _ := .notFound (.plain "queuemanagerconnections \"qm1\" not found")
  forConnection _ := .error (.plain "no connection")
  statusUpdate _ := .ok
  update := .ok

section Cases

attribute [local instance] asciiTables

theorem abandonedQueue_orphaned :
    workloadSuspended (abandonedQueue false) = false ∧
      OrphansLocally (reconcilerOf .queue) (connectionGone (abandonedQueue false)) :=
  ⟨rfl, (orphansLocally_iff_not_suspended .queue (connectionGone (abandonedQueue false)) (abandonedQueue false) rfl rfl
    (List.mem_singleton.mpr rfl) (by decide) (fun _ => rfl) rfl).mpr rfl⟩

/-- The same resource while suspended keeps its finalizer, although the annotation asks for it to go. -/
theorem abandonedQueue_stuck_while_suspended :
    (abandonedQueue true).metadata.deletionTimestamp.isSome = true ∧
      queueFinalizer ∈ (abandonedQueue true).metadata.finalizers ∧
      orphanDeletionRequested (abandonedQueue true) = true ∧
      ∀ new, .update new ∉ (reconcile queueReconciler (connectionGone (abandonedQueue true))).calls :=
  ⟨rfl, List.mem_singleton.mpr rfl, by decide,
    update_not_mem_suspended (connectionGone (abandonedQueue true)) (abandonedQueue true)⟩

end Cases

end MKurator.Controller
