import MKurator.Controller.BreakGlass

/-! The event filter of the workload controllers against what a reconcile reads off a resource. -/

namespace MKurator.Controller
open MKurator.Api MKurator.MqAdmin MKurator.Lib MKurator.Lib.Strings

section Predicates

variable {σ : Type}

def annotationValue (annotations : StringMap) (key : String) : String := annotations.get key

def generationChanged (old new : Workload σ) : Bool := old.metadata.generation != new.metadata.generation

def reconcileRequestedAnnotationChanged (old new : Workload σ) : Bool :=
  annotationValue old.metadata.annotations reconcileRequestedAtAnnotation !=
    annotationValue new.metadata.annotations reconcileRequestedAtAnnotation

def workloadLifecycleChanged (old new : Workload σ) : Bool :=
  if old.metadata.deletionTimestamp != new.metadata.deletionTimestamp then true
  else old.metadata.finalizers != new.metadata.finalizers

def workloadReconcilePredicates (old new : Workload σ) : Bool :=
  generationChanged old new || reconcileRequestedAnnotationChanged old new || workloadLifecycleChanged old new

theorem workloadReconcilePredicates_eq_false {old new : Workload σ}
    (rejected : workloadReconcilePredicates old new = false) :
    old.metadata.generation = new.metadata.generation ∧
      annotationValue old.metadata.annotations reconcileRequestedAtAnnotation =
        annotationValue new.metadata.annotations reconcileRequestedAtAnnotation ∧
      old.metadata.deletionTimestamp = new.metadata.deletionTimestamp ∧
      old.metadata.finalizers = new.metadata.finalizers := by
  simp only [workloadReconcilePredicates, generationChanged, reconcileRequestedAnnotationChanged, workloadLifecycleChanged,
    Bool.or_eq_false_iff] at rejected
  obtain ⟨⟨generation, requested⟩, lifecycle⟩ := rejected
  have deletion : old.metadata.deletionTimestamp = new.metadata.deletionTimestamp := by
    by_contra differ
    simp [differ] at lifecycle
  refine ⟨by simpa using generation, by simpa using requested, deletion, ?_⟩
  simpa [deletion] using lifecycle

end Predicates

/-- What a call does on the queue manager or to the resource's finalizers. -/
inductive Effect (μ : Type) where
  | getObject (spec : μ)
  | localDriftKeys
  | define (spec : μ)
  | delete (spec : μ)
  | setFinalizers (finalizers : List String)

/-- Status writes, events and reads of the cluster have no effect in this sense. -/
def Call.effect {σ μ : Type} : Call σ μ → Option (Effect μ)
  | .getObject spec => some (.getObject spec)
  | .localDriftKeys => some .localDriftKeys
  | .define spec => some (.define spec)
  | .delete spec => some (.delete spec)
  | .update obj => some (.setFinalizers obj.metadata.finalizers)
  | _ => none

section Effects

variable {σ μ τ : Type} {α β : Type}

def effects (out : Traced (Call σ μ) α) : List (Effect μ) := out.calls.filterMap Call.effect

@[simp] theorem effects_pure (a : α) : effects (pure a : Traced (Call σ μ) α) = [] := rfl

@[simp] theorem effects_bind (x : Traced (Call σ μ) α) (next : α → Traced (Call σ μ) β) :
    effects (x >>= next) = effects x ++ effects (next x.value) := by
  simp [effects]

@[simp] theorem effects_call (call : Call σ μ) (answer : α) :
    effects (Traced.call call answer) = call.effect.toList := by
  cases call <;> rfl

@[simp] theorem effects_emitSyncedTransitionEvent (obj : Workload σ) (status : ConditionStatus)
    (reason message : String) : effects (emitSyncedTransitionEvent (μ := μ) obj status reason message) = [] := by
  unfold emitSyncedTransitionEvent
  split <;> rfl

@[simp] theorem effects_patchSyncedStatus (env : Env σ μ τ) (n : Nat) (obj : Workload σ) (patch : SyncedStatusPatch) :
    effects (patchSyncedStatus env n obj patch) = [] := by
  unfold patchSyncedStatus
  cases patch.emitEvent <;> simp [Call.effect]

@[simp] theorem effects_suspended (env : Env σ μ τ) (obj : Workload σ) :
    effects (reconcileWorkloadSuspended env obj) = [] := by
  unfold reconcileWorkloadSuspended patchSyncedSuspended
  split <;> simp

theorem effects_orphanFinalizeWorkload (env : Env σ μ τ) (obj : Workload σ) (finalizer message : String) :
    effects (orphanFinalizeWorkload env obj finalizer message) =
      if env.statusUpdate 0 = .ok then [.setFinalizers (obj.metadata.finalizers.filter (· ≠ finalizer))] else [] := by
  unfold orphanFinalizeWorkload patchSyncedOrphaned
  simp only [effects_bind, effects_patchSyncedStatus, value_patchSyncedStatus]
  cases env.statusUpdate 0 <;> rfl

@[simp] theorem effects_forConnection (env : Env σ μ τ) (conn : QueueManagerConnection) :
    effects (forConnection env conn) = [] := rfl

variable [UnicodeTables]

@[simp] theorem effects_setSyncedError (env : Env σ μ τ) (n : Nat) (obj : Workload σ) (e : MqError)
    (mqObjectExists : Option Bool) : effects (setSyncedError env n obj e mqObjectExists) = [] := by
  unfold setSyncedError recordReconcileWarning
  simp only [effects_bind, effects_patchSyncedStatus, value_patchSyncedStatus]
  cases e.isTransient <;> cases (env.statusUpdate n).err <;> simp [Call.effect]

@[simp] theorem effects_deletionAwaitingConnection (env : Env σ μ τ) (obj : Workload σ) (e : MqError) :
    effects (deletionAwaitingConnection env obj e) = [] := by
  unfold deletionAwaitingConnection patchSyncedProgressing
  simp

@[simp] theorem effects_waitForConnectionReady (env : Env σ μ τ) (obj : Workload σ) (conn : QueueManagerConnection) :
    effects (waitForConnectionReady env obj conn) = [] := by
  unfold waitForConnectionReady patchSyncedProgressing
  split
  · rfl
  · simp only [effects_bind, effects_patchSyncedStatus, value_patchSyncedStatus]
    cases (env.statusUpdate 0).err <;> rfl

variable [WorkloadSpec σ]

@[simp] theorem effects_resolveConnection (env : Env σ μ τ) (obj : Workload σ) :
    effects (resolveConnection env obj) = [] := by
  unfold resolveConnection
  simp only [effects_bind, effects_call, Traced.value_call]
  cases env.connection (connectionRefName obj) <;> rfl

end Effects

section Flow

variable (K : Kind) (env : Env K.Spec K.MQSpec K.State) (obj : Workload K.Spec)

def deletionEffects (admin : Admin K.MQSpec K.State) : List (Effect K.MQSpec) :=
  if env.statusUpdate 0 = .ok then
    .delete (K.toMQ obj.spec) :: if (admin.delete (K.toMQ obj.spec)).err = none then
      [.setFinalizers (obj.metadata.finalizers.filter (· ≠ K.finalizer))] else []
  else []

variable [UnicodeTables]

theorem effects_reach (failed : MqError → Traced (Call K.Spec K.MQSpec) Reconciled)
    (next : Admin K.MQSpec K.State → Traced (Call K.Spec K.MQSpec) Reconciled)
    (silent : ∀ e, effects (failed e) = []) :
    effects (do
      match ← resolveConnection env obj with
      | .error e => failed e
      | .ok conn =>
        match ← waitForConnectionReady env obj conn with
        | some result => return result
        | none =>
          match ← forConnection env conn with
          | .error e => failed e
          | .ok admin => next admin) =
      (portFor K env (connectionRefName obj)).elim [] fun admin => effects (next admin) := by
  unfold portFor
  simp only [effects_bind, effects_resolveConnection, List.nil_append]
  cases lookup : env.connection (connectionRefName obj) with
  | notFound e => simp [resolveConnection, lookup, silent]
  | failed e => simp [resolveConnection, lookup, silent]
  | found conn =>
    have resolved : (resolveConnection env obj).value = .ok conn := by simp [resolveConnection, lookup]
    simp only [resolved, effects_bind, effects_waitForConnectionReady, List.nil_append]
    cases ready : conditionsReady conn.conditions with
    | false =>
      have stops : ∃ result, (waitForConnectionReady env obj conn).value = some result := by
        unfold waitForConnectionReady patchSyncedProgressing
        simp only [ready, Bool.false_eq_true, if_false, Traced.value_bind, value_patchSyncedStatus]
        cases (env.statusUpdate 0).err with
        | none => exact ⟨_, rfl⟩
        | some e => exact ⟨_, rfl⟩
      obtain ⟨result, stops⟩ := stops
      simp [stops]
    | true =>
      have goes : (waitForConnectionReady env obj conn).value = none := by simp [waitForConnectionReady, ready]
      simp only [goes, effects_bind, effects_forConnection, List.nil_append]
      cases port : env.forConnection conn with
      | error e => simp [forConnection, port, silent, Except.toOption]
      | ok admin => simp [forConnection, port, Except.toOption]

theorem effects_handleDeletion (admin : Admin K.MQSpec K.State) :
    effects (handleDeletion K env obj admin) = deletionEffects K env obj admin := by
  unfold handleDeletion patchSyncedDeleting deletionEffects
  simp only [effects_bind, effects_patchSyncedStatus, value_patchSyncedStatus]
  cases env.statusUpdate 0 with
  | failed e => rfl
  | lost e => rfl
  | ok =>
    simp only [WriteAnswer.err, effects_bind, effects_call, Traced.value_call]
    rw [show (applyPatch env.now obj (reportPatch reasonDeleting K.deletingMessage none true)).spec = obj.spec from rfl]
    cases admin.delete (K.toMQ obj.spec) with
    | ok => simp [Call.effect, removeFinalizer, applyPatch, DeleteAnswer.err]
    | forgiven => simp [Call.effect, removeFinalizer, applyPatch, DeleteAnswer.err]
    | failed e => simp [Call.effect, DeleteAnswer.err]
    | lost e => simp [Call.effect, DeleteAnswer.err]

theorem effects_reportEnsure (out : EnsureResult) : effects (reportEnsure K env obj out) = [] := by
  rcases out with ⟨mqExists, drift, err⟩
  unfold reportEnsure handleAdoptionBlock patchSyncedAdoptionBlocked patchSyncedDrift patchSyncedAvailable
  rcases err with _ | (block | e)
  · cases drift <;> simp only [effects_bind, effects_patchSyncedStatus, value_patchSyncedStatus] <;>
      cases (env.statusUpdate 0).err <;> rfl
  · simp only [effects_bind, effects_patchSyncedStatus, value_patchSyncedStatus]
    cases (env.statusUpdate 0).err <;> rfl
  · exact effects_setSyncedError env 0 obj e _

/-- Whether the spec can be rendered at all; otherwise a reconcile makes no MQ call. -/
def Renders : Prop := K.unsupported obj.spec = none ∧ ∃ text, K.format (K.toMQ obj.spec) = .ok text

theorem effects_ensureAndReport (admin : Admin K.MQSpec K.State) (renders : Renders K obj) :
    effects (ensureAndReport K env obj admin) = effects (K.ensure admin obj (K.toMQ obj.spec)) := by
  obtain ⟨supported, text, formatted⟩ := renders
  unfold ensureAndReport
  simp only [supported, formatted, effects_bind, effects_reportEnsure, List.append_nil]
  rw [K.ensure_congr admin { obj with status := { obj.status with desiredMQSC := text } } obj (K.toMQ obj.spec)
    rfl rfl rfl]

theorem effects_ensureAndReport_of_not_renders (admin : Admin K.MQSpec K.State) (stuck : ¬Renders K obj) :
    effects (ensureAndReport K env obj admin) = [] := by
  unfold ensureAndReport
  cases supported : K.unsupported obj.spec with
  | some e => exact effects_setSyncedError env 0 obj e none
  | none =>
    cases formatted : K.format (K.toMQ obj.spec) with
    | error e => exact effects_setSyncedError env 0 obj e none
    | ok text => exact absurd ⟨supported, text, formatted⟩ stuck

theorem effects_reconcileWorkload [Decidable (Renders K obj)] :
    effects (reconcileWorkload K env obj) =
      if workloadSuspended obj then []
      else if obj.metadata.deletionTimestamp.isSome then
        if K.finalizer ∉ obj.metadata.finalizers then []
        else if orphanDeletionRequested obj then
          if env.statusUpdate 0 = .ok then [.setFinalizers (obj.metadata.finalizers.filter (· ≠ K.finalizer))] else []
        else (portFor K env (connectionRefName obj)).elim [] (deletionEffects K env obj)
      else (portFor K env (connectionRefName obj)).elim [] fun admin =>
        if K.finalizer ∉ obj.metadata.finalizers then [.setFinalizers (obj.metadata.finalizers ++ [K.finalizer])]
        else if Renders K obj then effects (K.ensure admin obj (K.toMQ obj.spec)) else [] := by
  unfold reconcileWorkload
  cases workloadSuspended obj with
  | true => simp
  | false =>
    simp only [Bool.false_eq_true, if_false]
    cases deleting : obj.metadata.deletionTimestamp with
    | some time =>
      simp only [Option.isSome_some, if_true]
      unfold reconcileWorkloadDeletion
      by_cases present : K.finalizer ∈ obj.metadata.finalizers
      · simp only [containsFinalizer, present, decide_true, Bool.not_true, Bool.false_eq_true, if_false, not_true]
        cases orphanDeletionRequested obj with
        | true => exact effects_orphanFinalizeWorkload env obj _ _
        | false =>
          simp only [Bool.false_eq_true, if_false]
          refine (effects_reach K env obj _ _ (effects_deletionAwaitingConnection env obj)).trans ?_
          simp only [effects_handleDeletion]
      · simp [containsFinalizer, present]
    | none =>
      simp only [Option.isSome_none, Bool.false_eq_true, if_false]
      unfold reconcileLive
      refine (effects_reach K env obj (fun e => setSyncedError env 0 obj e none) _
        fun e => effects_setSyncedError env 0 obj e none).trans ?_
      congr 1
      funext admin
      by_cases present : K.finalizer ∈ obj.metadata.finalizers
      · by_cases renders : Renders K obj
        · simp [containsFinalizer, present, renders, effects_ensureAndReport]
        · simp [containsFinalizer, present, renders, effects_ensureAndReport_of_not_renders]
      · simp [containsFinalizer, present, Call.effect, addFinalizer]

theorem effects_reconcile_found :
    effects (reconcile K { env with object := .found obj }) = effects (reconcileWorkload K env obj) := by
  classical
  show effects (reconcileWorkload K { env with object := .found obj } obj) = _
  rw [effects_reconcileWorkload, effects_reconcileWorkload]
  rfl

end Flow

section Soundness

variable (K : Kind) (old new : Workload K.Spec)

/-- Nothing that the filter leaves out makes a difference: neither an orphan request while the resource is deleting, nor
the drift policy while it is not. -/
def UnfilteredReadsAgree : Prop :=
  workloadSuspended old = true ∨ K.finalizer ∉ old.metadata.finalizers ∨
    (old.metadata.deletionTimestamp.isSome = true ∧ orphanDeletionRequested old = orphanDeletionRequested new) ∨
    (old.metadata.deletionTimestamp = none ∧ (isObserveOnly old = isObserveOnly new ∨ ¬Renders K old))

def emptyQueueManager : Admin K.MQSpec K.State where
  get _ := (none, none)
  localDriftKeys := .ok []
  define _ := .ok
  delete _ := .ok

theorem define_not_mem_reads {σ μ : Type} (reads : List (Call σ μ)) (readOnly : ∀ call ∈ reads, call.isMQRead = true)
    (spec : μ) : .define spec ∉ reads.filterMap Call.effect := by
  intro member
  obtain ⟨call, among, effect⟩ := List.mem_filterMap.mp member
  have read := readOnly call among
  cases call <;> simp [Call.isMQRead] at read <;> simp [Call.effect] at effect

theorem define_mem_ensure_iff (spec : K.MQSpec) (keys : List String)
    (resolved : K.driftKeys (emptyQueueManager K) spec = .ok keys) (obj : Workload K.Spec) :
    .define spec ∈ effects (K.ensure (emptyQueueManager K) obj spec) ↔ isObserveOnly obj = false := by
  have ensured := K.ensure_cases (emptyQueueManager K) obj spec
  unfold effects
  generalize (K.ensure (emptyQueueManager K) obj spec).calls = calls at ensured ⊢
  generalize (K.ensure (emptyQueueManager K) obj spec).value = result at ensured
  cases ensured with
  | getFailed e failure other => cases failure
  | keysFailed e reads readOnly answered unresolved =>
    rw [resolved] at unresolved
    cases unresolved
  | blocked keys block reads readOnly answered resolved refused asked =>
    have missing : K.adoptionBlock keys obj spec (K.observed (emptyQueueManager K) spec) = none :=
      (adoptionBlockForExisting_eq_none_iff _ _ _ _ _ _).mpr (.inr (.inl rfl))
    rw [missing] at refused
    cases refused
  | drifted keys message reads readOnly answered resolved observing needed =>
    simp only [observing, Bool.true_eq_false, iff_false]
    exact define_not_mem_reads _ readOnly spec
  | inSync keys reads readOnly answered resolved unneeded permitted => cases unneeded
  | defineFailed keys e reads readOnly answered resolved acting needed permitted failure => cases failure
  | defined keys reads readOnly answered resolved acting needed permitted success =>
    simp [acting, List.filterMap_append, Call.effect]

variable (spec : old.spec = new.spec) (deletion : old.metadata.deletionTimestamp = new.metadata.deletionTimestamp)
  (finalizers : old.metadata.finalizers = new.metadata.finalizers)

include spec deletion finalizers

theorem effects_reconcileWorkload_eq_of_agree [UnicodeTables] (env : Env K.Spec K.MQSpec K.State)
    (sameStatus : old.status = new.status) (agree : UnfilteredReadsAgree K old new) :
    effects (reconcileWorkload K env old) = effects (reconcileWorkload K env new) := by
  classical
  have suspended : workloadSuspended new = workloadSuspended old := by rw [workloadSuspended, workloadSuspended, spec]
  have connection : connectionRefName new = connectionRefName old := by rw [connectionRefName, connectionRefName, spec]
  have renders : Renders K new ↔ Renders K old := by rw [Renders, Renders, spec]
  have deletions : deletionEffects K env new = deletionEffects K env old := by
    funext admin
    rw [deletionEffects, deletionEffects, spec, finalizers]
  rw [effects_reconcileWorkload, effects_reconcileWorkload]
  simp only [suspended, connection, renders, deletions, ← deletion, ← finalizers]
  rcases agree with stopped | absent | ⟨deleting, orphan⟩ | ⟨live, observing⟩
  · simp [stopped]
  · simp [absent]
  · simp [deleting, orphan]
  · rcases observing with observing | stuck
    · have ensured : ∀ admin, K.ensure admin old (K.toMQ old.spec) = K.ensure admin new (K.toMQ new.spec) := by
        intro admin
        rw [← spec]
        refine K.ensure_congr admin old new _ observing ?_ ?_
        · rw [workloadAdoptionPolicy, workloadAdoptionPolicy, spec]
        · rw [workloadFirstAdoption, workloadFirstAdoption, sameStatus]
      simp [live, ensured]
    · simp [live, stuck]

theorem agree_of_effects_reconcileWorkload_eq [UnicodeTables]
    (keys : ∀ mqSpec, ∃ keys, K.driftKeys (emptyQueueManager K) mqSpec = .ok keys)
    (same : ∀ env, effects (reconcileWorkload K env old) = effects (reconcileWorkload K env new)) :
    UnfilteredReadsAgree K old new := by
  classical
  have suspended : workloadSuspended new = workloadSuspended old := by rw [workloadSuspended, workloadSuspended, spec]
  have renders : Renders K new ↔ Renders K old := by rw [Renders, Renders, spec]
  have ready : ∀ name, portFor K (readyCluster K (.found old) (emptyQueueManager K)) name = some (emptyQueueManager K) :=
    fun _ => rfl
  have answer := same (readyCluster K (.found old) (emptyQueueManager K))
  rw [effects_reconcileWorkload, effects_reconcileWorkload] at answer
  simp only [suspended, renders, ← deletion, ← finalizers, ready, Option.elim_some] at answer
  unfold UnfilteredReadsAgree
  by_cases stopped : workloadSuspended old = true
  · exact .inl stopped
  by_cases absent : K.finalizer ∉ old.metadata.finalizers
  · exact .inr (.inl absent)
  refine .inr (.inr ?_)
  simp only [stopped, absent, if_false] at answer
  by_cases deleting : old.metadata.deletionTimestamp.isSome = true
  · refine .inl ⟨deleting, ?_⟩
    -- an orphaned resource changes its finalizers only, any other is deleted on the queue manager first
    have lengths := congrArg List.length answer
    cases orphan : orphanDeletionRequested old <;> cases orphan' : orphanDeletionRequested new <;>
      simp [deleting, orphan, orphan', deletionEffects, readyCluster, emptyQueueManager, DeleteAnswer.err] at lengths ⊢
  · refine .inr ⟨by simpa using deleting, ?_⟩
    by_cases rendered : Renders K old
    · left
      simp only [deleting, rendered, if_true, Bool.false_eq_true, if_false] at answer
      obtain ⟨resolved, found⟩ := keys (K.toMQ old.spec)
      have defines := define_mem_ensure_iff K (K.toMQ old.spec) resolved found old
      rw [answer, ← spec, define_mem_ensure_iff K (K.toMQ old.spec) resolved found new] at defines
      cases observing : isObserveOnly old <;> cases observing' : isObserveOnly new <;>
        simp [observing, observing'] at defines ⊢
    · exact .inr rendered

end Soundness

theorem driftKeys_emptyQueueManager [UnicodeTables] (k : WorkloadKind) (spec : (reconcilerOf k).MQSpec) :
    ∃ keys, (reconcilerOf k).driftKeys (emptyQueueManager (reconcilerOf k)) spec = .ok keys := by
  cases k with
  | queue =>
    show ∃ keys, (resolveQueueDriftCheckKeys (emptyQueueManager queueReconciler) spec).value = .ok keys
    unfold resolveQueueDriftCheckKeys
    split <;> exact ⟨_, rfl⟩
  | topic => exact ⟨_, rfl⟩
  | channel => exact ⟨_, rfl⟩
  | channelAuthRule => exact ⟨_, rfl⟩
  | authorityRecord => exact ⟨_, rfl⟩

/-- For two versions of a resource between which the filter drops the update event, reconciles of both make the same MQ
calls and finalizer changes in every cluster exactly when the reads that the filter leaves out agree. -/
theorem dropped_event_harmless_iff [UnicodeTables] (k : WorkloadKind) (old new : Workload (reconcilerOf k).Spec)
    (sameStatus : old.status = new.status)
    (apiServer : old.metadata.generation = new.metadata.generation → old.spec = new.spec)
    (rejected : workloadReconcilePredicates old new = false) :
    (∀ env : Env (reconcilerOf k).Spec (reconcilerOf k).MQSpec (reconcilerOf k).State,
      effects (reconcile (reconcilerOf k) { env with object := .found old }) =
        effects (reconcile (reconcilerOf k) { env with object := .found new })) ↔
      UnfilteredReadsAgree (reconcilerOf k) old new := by
  obtain ⟨generation, -, deletion, finalizers⟩ := workloadReconcilePredicates_eq_false rejected
  have spec := apiServer generation
  simp only [effects_reconcile_found]
  constructor
  · intro same
    exact agree_of_effects_reconcileWorkload_eq (reconcilerOf k) old new spec deletion finalizers
      (driftKeys_emptyQueueManager k) same
  · intro agree env
    exact effects_reconcileWorkload_eq_of_agree (reconcilerOf k) old new spec deletion finalizers env sameStatus agree

def waitingQueue : Workload Api.QueueSpec :=
  { abandonedQueue false with metadata := { (abandonedQueue false).metadata with annotations := ∅ } }

def labelledQueue : Workload Api.QueueSpec :=
  { waitingQueue with metadata :=
      { waitingQueue.metadata with annotations := (∅ : StringMap).insert "team" "orders" } }

section Cases

attribute [local instance] asciiTables

theorem labelledQueue_event_harmless :
    workloadReconcilePredicates waitingQueue labelledQueue = false ∧
      effects (reconcile (reconcilerOf .queue) (connectionGone waitingQueue)) =
        effects (reconcile (reconcilerOf .queue) (connectionGone labelledQueue)) :=
  ⟨by decide, (dropped_event_harmless_iff .queue waitingQueue labelledQueue rfl (fun _ => rfl) (by decide)).mpr
    (.inr (.inr (.inl ⟨rfl, by decide⟩))) (connectionGone waitingQueue)⟩

/-- The event that sets the force-orphan annotation is dropped, although the reconcile it asks for would remove the
finalizer and the last one before it did not. -/
theorem force_orphan_event_dropped :
    waitingQueue.status = (abandonedQueue false).status ∧ waitingQueue.spec = (abandonedQueue false).spec ∧
      workloadReconcilePredicates waitingQueue (abandonedQueue false) = false ∧
      effects (reconcile queueReconciler (connectionGone waitingQueue)) = [] ∧
      effects (reconcile queueReconciler (connectionGone (abandonedQueue false))) = [.setFinalizers []] :=
  ⟨rfl, rfl, by decide, rfl, rfl⟩

end Cases

end MKurator.Controller
