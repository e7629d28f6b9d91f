import MKurator.Controller.Reconcile

/-! Everything one reconcile can write, with the guards under which it writes it. Later results about reconciles and
about runs of them go through `reconcileWorkload_cases` and never unfold the flow again. -/

namespace MKurator.Controller
open MKurator.Api MKurator.MqAdmin MKurator.Lib MKurator.Lib.Strings

section Writes

variable {σ μ τ : Type} {α β : Type}

def writes (out : Traced (Call σ μ) α) : List (Call σ μ) := out.calls.filter Call.isWrite

@[simp] theorem writes_pure (a : α) : writes (pure a : Traced (Call σ μ) α) = [] := rfl

@[simp] theorem writes_bind (x : Traced (Call σ μ) α) (next : α → Traced (Call σ μ) β) :
    writes (x >>= next) = writes x ++ writes (next x.value) := by
  simp [writes]

@[simp] theorem writes_call (call : Call σ μ) (answer : α) :
    writes (Traced.call call answer) = if call.isWrite then [call] else [] := by
  cases call <;> rfl

theorem filter_isWrite_reads (reads : List (Call σ μ)) (readOnly : ∀ call ∈ reads, call.isMQRead = true) :
    reads.filter Call.isWrite = [] := by
  rw [List.filter_eq_nil_iff]
  intro call member
  have read := readOnly call member
  cases call <;> simp [Call.isMQRead] at read <;> simp [Call.isWrite]

theorem mem_writes {out : Traced (Call σ μ) α} {call : Call σ μ} (isWrite : call.isWrite = true) :
    call ∈ out.calls ↔ call ∈ writes out := by
  simp [writes, isWrite]

@[simp] theorem writes_emitSyncedTransitionEvent (obj : Workload σ) (status : ConditionStatus)
    (reason message : String) :
    writes (emitSyncedTransitionEvent (μ := μ) obj status reason message) = [] := by
  unfold emitSyncedTransitionEvent
  split <;> rfl

@[simp] theorem writes_patchSyncedStatus (env : Env σ μ τ) (n : Nat) (obj : Workload σ) (patch : SyncedStatusPatch) :
    writes (patchSyncedStatus env n obj patch) = [.statusUpdate (applyPatch env.now obj patch)] := by
  unfold patchSyncedStatus
  cases patch.emitEvent <;> simp [Call.isWrite]

@[simp] theorem value_patchSyncedStatus (env : Env σ μ τ) (n : Nat) (obj : Workload σ) (patch : SyncedStatusPatch) :
    (patchSyncedStatus env n obj patch).value = (applyPatch env.now obj patch, (env.statusUpdate n).err) := by
  unfold patchSyncedStatus
  cases patch.emitEvent <;> rfl

end Writes

def syncedReason {σ : Type} (obj : Workload σ) : Option String :=
  (findCondition obj.status.conditions conditionSynced).map Condition.reason

/-- The status says that the MQ object is someone else's. -/
def ReportsConflict {σ : Type} (obj : Workload σ) : Prop :=
  syncedReason obj = some reasonAlreadyExists ∨ syncedReason obj = some reasonAdoptionConflict

/-- A status that differs from the stored one only in what it reports. -/
structure IsReport {σ : Type} (obj patched : Workload σ) : Prop where
  metadata : patched.metadata = obj.metadata
  spec : patched.spec = obj.spec
  observedGeneration : patched.status.observedGeneration = obj.status.observedGeneration

structure IsSync {σ : Type} (obj patched : Workload σ) : Prop where
  metadata : patched.metadata = obj.metadata
  spec : patched.spec = obj.spec
  observedGeneration : patched.status.observedGeneration = obj.metadata.generation

section Patches

variable {σ : Type}

@[simp] theorem syncedReason_applyPatch (now : Nat) (obj : Workload σ) (patch : SyncedStatusPatch) :
    syncedReason (applyPatch now obj patch) = some patch.reason :=
  findCondition_setCondition now conditionSynced _ _ _ _ _

theorem isReport_reportPatch (now : Nat) (obj : Workload σ) (reason message : String) (mqObjectExists : Option Bool)
    (emitEvent : Bool) : IsReport obj (applyPatch now obj (reportPatch reason message mqObjectExists emitEvent)) :=
  ⟨rfl, rfl, rfl⟩

theorem IsReport.trans {first second third : Workload σ} (one : IsReport first second) (two : IsReport second third) :
    IsReport first third :=
  ⟨two.metadata.trans one.metadata, two.spec.trans one.spec, two.observedGeneration.trans one.observedGeneration⟩

theorem not_reportsConflict_applyPatch (now : Nat) (obj : Workload σ) (patch : SyncedStatusPatch)
    (exists_ : patch.reason ≠ reasonAlreadyExists) (conflict : patch.reason ≠ reasonAdoptionConflict) :
    ¬ReportsConflict (applyPatch now obj patch) := by
  rintro (same | same)
  · rw [syncedReason_applyPatch] at same
    exact exists_ (Option.some.inj same)
  · rw [syncedReason_applyPatch] at same
    exact conflict (Option.some.inj same)

theorem not_reportsConflict_available (now : Nat) (obj : Workload σ) (message : String) :
    ¬ReportsConflict (applyPatch now obj (availablePatch now message)) :=
  not_reportsConflict_applyPatch now obj _ (show reasonAvailable ≠ _ by decide) (show reasonAvailable ≠ _ by decide)

variable [UnicodeTables]

theorem classifyReconcileError_reason (e : MqError) :
    (classifyReconcileError e).1 ≠ reasonAlreadyExists ∧ (classifyReconcileError e).1 ≠ reasonAdoptionConflict := by
  unfold classifyReconcileError
  split
  next reason message _ =>
    dsimp only
    cases reason <;> decide
  next =>
    split
    · dsimp only
      decide
    · split <;> dsimp only <;> decide

end Patches

section Flow

variable (K : Kind) (env : Env K.Spec K.MQSpec K.State) (obj : Workload K.Spec)

def Reaches (admin : Admin K.MQSpec K.State) : Prop :=
  ∃ conn, env.connection (connectionRefName obj) = .found conn ∧ conditionsReady conn.conditions = true ∧
    env.forConnection conn = .ok admin

def portFor (name : String) : Option (Admin K.MQSpec K.State) :=
  match env.connection name with
  | .found conn => if conditionsReady conn.conditions then (env.forConnection conn).toOption else none
  | .notFound _ | .failed _ => none

theorem reaches_iff (admin : Admin K.MQSpec K.State) :
    Reaches K env obj admin ↔ portFor K env (connectionRefName obj) = some admin := by
  unfold Reaches portFor
  cases env.connection (connectionRefName obj) with
  | notFound e => simp
  | failed e => simp
  | found conn =>
    cases ready : conditionsReady conn.conditions with
    | false => simp [ready]
    | true => cases port : env.forConnection conn <;> simp [ready, port, Except.toOption]

def readyConnection (name : String) : QueueManagerConnection where
  metadata := { name := name, ns := "apps", generation := 1, deletionTimestamp := none, finalizers := [], annotations := ∅ }
  spec := { queueManager := "QM1", endpoint := "https://qm1:9443", restPrefix := "", tls := none,
            credentialsSecretRef := some "qm1-credentials", authentication := none }
  conditions := [⟨conditionReady, .conditionTrue, reasonAvailable, "", 1, 0⟩]
  observedGeneration := 1

def readyCluster (object : Lookup (Workload K.Spec)) (admin : Admin K.MQSpec K.State) :
    Env K.Spec K.MQSpec K.State where
  now := 200
  intervals := ⟨15, 30, 300, by decide, by decide, by decide⟩
  object := object
  connection name := .found (readyConnection name)
  forConnection _ := .ok admin
  statusUpdate _ := .ok
  update := .ok

structure EnsureGate (admin : Admin K.MQSpec K.State) : Prop where
  unsuspended : workloadSuspended obj = false
  live : obj.metadata.deletionTimestamp = none
  finalizer : K.finalizer ∈ obj.metadata.finalizers
  reaches : Reaches K env obj admin
  supported : K.unsupported obj.spec = none

structure DeleteGate (admin : Admin K.MQSpec K.State) : Prop where
  unsuspended : workloadSuspended obj = false
  deleting : obj.metadata.deletionTimestamp.isSome = true
  finalizer : K.finalizer ∈ obj.metadata.finalizers
  notOrphaned : orphanDeletionRequested obj = false
  reaches : Reaches K env obj admin

/-- What an ensure step learned before it decided. -/
structure Observation (admin : Admin K.MQSpec K.State) (keys : List String) : Prop where
  rendered : ∃ text, K.format (K.toMQ obj.spec) = .ok text
  answered : K.GetAnswered admin (K.toMQ obj.spec)
  resolved : K.driftKeys admin (K.toMQ obj.spec) = .ok keys

/-- The writes of one reconcile of `obj`. -/
inductive ReconcileCase : List (Call K.Spec K.MQSpec) → Prop
  | quiet : ReconcileCase []
  | reported (patched : Workload K.Spec) (report : IsReport obj patched) (plain : ¬ReportsConflict patched) :
      ReconcileCase [.statusUpdate patched]
  | finalizerAdded (unsuspended : workloadSuspended obj = false) (live : obj.metadata.deletionTimestamp = none)
      (absent : K.finalizer ∉ obj.metadata.finalizers) :
      ReconcileCase [.update (addFinalizer obj K.finalizer)]
  | blocked (admin : Admin K.MQSpec K.State) (keys : List String) (gate : EnsureGate K env obj admin)
      (seen : Observation K obj admin keys) (block : AdoptionBlockedError)
      (refused : K.adoptionBlock keys obj (K.toMQ obj.spec) (K.observed admin (K.toMQ obj.spec)) = some block)
      (asked : ¬(K.observeOnlyFirst = true ∧ isObserveOnly obj = true))
      (patched : Workload K.Spec) (report : IsReport obj patched) :
      ReconcileCase [.statusUpdate patched]
  | synced (admin : Admin K.MQSpec K.State) (keys : List String) (gate : EnsureGate K env obj admin)
      (seen : Observation K obj admin keys)
      (unneeded : K.needsUpdate keys (K.toMQ obj.spec) (K.observed admin (K.toMQ obj.spec)) = false)
      (permitted : K.adoptionBlock keys obj (K.toMQ obj.spec) (K.observed admin (K.toMQ obj.spec)) = none ∨
        (K.observeOnlyFirst = true ∧ isObserveOnly obj = true))
      (patched : Workload K.Spec) (sync : IsSync obj patched) (plain : ¬ReportsConflict patched) :
      ReconcileCase [.statusUpdate patched]
  | defineFailed (admin : Admin K.MQSpec K.State) (keys : List String) (gate : EnsureGate K env obj admin)
      (seen : Observation K obj admin keys) (acting : isObserveOnly obj = false)
      (needed : K.needsUpdate keys (K.toMQ obj.spec) (K.observed admin (K.toMQ obj.spec)) = true)
      (permitted : K.adoptionBlock keys obj (K.toMQ obj.spec) (K.observed admin (K.toMQ obj.spec)) = none)
      (failure : admin.define (K.toMQ obj.spec) ≠ .ok)
      (patched : Workload K.Spec) (report : IsReport obj patched) (plain : ¬ReportsConflict patched) :
      ReconcileCase [.define (K.toMQ obj.spec), .statusUpdate patched]
  | defined (admin : Admin K.MQSpec K.State) (keys : List String) (gate : EnsureGate K env obj admin)
      (seen : Observation K obj admin keys) (acting : isObserveOnly obj = false)
      (needed : K.needsUpdate keys (K.toMQ obj.spec) (K.observed admin (K.toMQ obj.spec)) = true)
      (permitted : K.adoptionBlock keys obj (K.toMQ obj.spec) (K.observed admin (K.toMQ obj.spec)) = none)
      (success : admin.define (K.toMQ obj.spec) = .ok)
      (patched : Workload K.Spec) (sync : IsSync obj patched) (plain : ¬ReportsConflict patched) :
      ReconcileCase [.define (K.toMQ obj.spec), .statusUpdate patched]
  | deleteFailed (admin : Admin K.MQSpec K.State) (gate : DeleteGate K env obj admin)
      (failure : (admin.delete (K.toMQ obj.spec)).err ≠ none) (first second : Workload K.Spec)
      (report : IsReport obj first) (plain : ¬ReportsConflict first) (written : env.statusUpdate 0 = .ok)
      (report' : IsReport obj second) (plain' : ¬ReportsConflict second) :
      ReconcileCase [.statusUpdate first, .delete (K.toMQ obj.spec), .statusUpdate second]
  | deleted (admin : Admin K.MQSpec K.State) (gate : DeleteGate K env obj admin)
      (success : (admin.delete (K.toMQ obj.spec)).err = none) (patched : Workload K.Spec)
      (report : IsReport obj patched) (plain : ¬ReportsConflict patched) (written : env.statusUpdate 0 = .ok) :
      ReconcileCase [.statusUpdate patched, .delete (K.toMQ obj.spec), .update (removeFinalizer patched K.finalizer)]
  | orphaned (unsuspended : workloadSuspended obj = false)
      (deleting : obj.metadata.deletionTimestamp.isSome = true) (finalizer : K.finalizer ∈ obj.metadata.finalizers)
      (requested : orphanDeletionRequested obj = true) (patched : Workload K.Spec)
      (report : IsReport obj patched) (plain : ¬ReportsConflict patched) (written : env.statusUpdate 0 = .ok) :
      ReconcileCase [.statusUpdate patched, .update (removeFinalizer patched K.finalizer)]

theorem reportPatch_cases (reason message : String) (mqObjectExists : Option Bool) (emitEvent : Bool)
    (exists_ : reason ≠ reasonAlreadyExists) (conflict : reason ≠ reasonAdoptionConflict) :
    ReconcileCase K env obj [.statusUpdate (applyPatch env.now obj
      (reportPatch reason message mqObjectExists emitEvent))] :=
  .reported _ (isReport_reportPatch _ _ _ _ _ _) (not_reportsConflict_applyPatch _ _ _ exists_ conflict)

theorem progressing_cases (message : String) :
    ReconcileCase K env obj (writes (patchSyncedProgressing env obj message)) := by
  unfold patchSyncedProgressing
  rw [writes_patchSyncedStatus]
  exact reportPatch_cases K env obj _ _ _ _ (by decide) (by decide)

theorem suspended_cases : ReconcileCase K env obj (writes (reconcileWorkloadSuspended env obj)) := by
  unfold reconcileWorkloadSuspended patchSyncedSuspended
  split
  · exact .quiet
  · simp only [writes_bind, writes_patchSyncedStatus, writes_pure, List.append_nil]
    exact reportPatch_cases K env obj _ _ _ _ (by decide) (by decide)

theorem orphanFinalizeWorkload_cases (unsuspended : workloadSuspended obj = false)
    (deleting : obj.metadata.deletionTimestamp.isSome = true) (finalizer : K.finalizer ∈ obj.metadata.finalizers)
    (requested : orphanDeletionRequested obj = true) (message : String) :
    ReconcileCase K env obj (writes (orphanFinalizeWorkload env obj K.finalizer message)) := by
  unfold orphanFinalizeWorkload patchSyncedOrphaned
  have plain : ¬ReportsConflict (applyPatch env.now obj (reportPatch reasonOrphaned message none true)) :=
    not_reportsConflict_applyPatch _ _ _ (show reasonOrphaned ≠ _ by decide) (show reasonOrphaned ≠ _ by decide)
  simp only [writes_bind, writes_patchSyncedStatus, value_patchSyncedStatus]
  cases answer : (env.statusUpdate 0).err with
  | some e => exact .reported _ (isReport_reportPatch _ _ _ _ _ _) plain
  | none =>
    exact .orphaned unsuspended deleting finalizer requested _ (isReport_reportPatch _ _ _ _ _ _) plain
      ((WriteAnswer.err_eq_none_iff _).mp answer)

@[simp] theorem writes_forConnection (conn : QueueManagerConnection) : writes (forConnection env conn) = [] := rfl

variable [UnicodeTables]

theorem writes_setSyncedError (n : Nat) (e : MqError) (mqObjectExists : Option Bool) :
    writes (setSyncedError env n obj e mqObjectExists) = [.statusUpdate (applyPatch env.now obj
      (reportPatch (classifyReconcileError e).1 (classifyReconcileError e).2 mqObjectExists false))] := by
  unfold setSyncedError recordReconcileWarning
  simp only [writes_bind, writes_patchSyncedStatus, value_patchSyncedStatus]
  cases e.isTransient <;> cases (env.statusUpdate n).err <;> simp [Call.isWrite]

theorem setSyncedError_cases (e : MqError) (mqObjectExists : Option Bool) :
    ReconcileCase K env obj (writes (setSyncedError env 0 obj e mqObjectExists)) := by
  rw [writes_setSyncedError]
  have plain := classifyReconcileError_reason e
  exact reportPatch_cases K env obj _ _ _ _ plain.1 plain.2

theorem deletionAwaitingConnection_cases (e : MqError) :
    ReconcileCase K env obj (writes (deletionAwaitingConnection env obj e)) := by
  unfold deletionAwaitingConnection
  simpa using progressing_cases K env obj ("Deletion waiting for connection: " ++ e.text)

@[simp] theorem writes_resolveConnection : writes (resolveConnection env obj) = [] := by
  unfold resolveConnection
  simp only [writes_bind, writes_call, Traced.value_call]
  cases env.connection (connectionRefName obj) <;> rfl

theorem resolveConnection_ok {conn : QueueManagerConnection} (found : (resolveConnection env obj).value = .ok conn) :
    env.connection (connectionRefName obj) = .found conn := by
  unfold resolveConnection at found
  simp only [Traced.value_bind, Traced.value_call] at found
  cases lookup : env.connection (connectionRefName obj) with
  | found other =>
    rw [lookup] at found
    exact congrArg Lookup.found (Except.ok.inj found)
  | notFound e => rw [lookup] at found; cases found
  | failed e => rw [lookup] at found; cases found

theorem waitForConnectionReady_cases (conn : QueueManagerConnection) :
    (conditionsReady conn.conditions = true ∧ writes (waitForConnectionReady env obj conn) = [] ∧
      (waitForConnectionReady env obj conn).value = none) ∨
    (ReconcileCase K env obj (writes (waitForConnectionReady env obj conn)) ∧
      ∃ result, (waitForConnectionReady env obj conn).value = some result) := by
  unfold waitForConnectionReady
  cases ready : conditionsReady conn.conditions with
  | true => exact .inl ⟨rfl, rfl, rfl⟩
  | false =>
    have written := progressing_cases K env obj (connectionWaitMessage conn)
    have answer : (patchSyncedProgressing env obj (connectionWaitMessage conn)).value.2 =
        (env.statusUpdate 0).err := by
      unfold patchSyncedProgressing
      rw [value_patchSyncedStatus]
    right
    simp only [Bool.false_eq_true, if_false, writes_bind, Traced.value_bind, answer]
    cases (env.statusUpdate 0).err with
    | none => exact ⟨by simpa using written, _, rfl⟩
    | some e => exact ⟨by simpa using written, _, rfl⟩

theorem writes_reportEnsure (out : EnsureResult) :
    writes (reportEnsure K env obj out) = [.statusUpdate (applyPatch env.now obj (match out.err, out.drift with
      | some (.blocked block), _ => reportPatch block.reason block.message (some out.mqExists) true
      | some (.failed e), _ =>
        reportPatch (classifyReconcileError e).1 (classifyReconcileError e).2 (some out.mqExists) false
      | none, some message => reportPatch reasonDriftDetected message (some out.mqExists) true
      | none, none => availablePatch env.now K.syncedMessage))] := by
  rcases out with ⟨mqExists, drift, err⟩
  unfold reportEnsure
  rcases err with _ | (block | e)
  · rcases drift with _ | message
    · unfold patchSyncedAvailable
      simp only [writes_bind, writes_patchSyncedStatus, value_patchSyncedStatus]
      cases (env.statusUpdate 0).err <;> rfl
    · unfold patchSyncedDrift
      simp only [writes_bind, writes_patchSyncedStatus, value_patchSyncedStatus]
      cases (env.statusUpdate 0).err <;> rfl
  · unfold handleAdoptionBlock patchSyncedAdoptionBlocked
    simp only [writes_bind, writes_patchSyncedStatus, value_patchSyncedStatus]
    cases (env.statusUpdate 0).err <;> rfl
  · exact writes_setSyncedError K env obj 0 e (some mqExists)

theorem ensureAndReport_cases (admin : Admin K.MQSpec K.State) (unsuspended : workloadSuspended obj = false)
    (live : obj.metadata.deletionTimestamp = none) (finalizer : K.finalizer ∈ obj.metadata.finalizers)
    (reaches : Reaches K env obj admin) :
    ReconcileCase K env obj (writes (ensureAndReport K env obj admin)) := by
  unfold ensureAndReport
  cases supported : K.unsupported obj.spec with
  | some e => exact setSyncedError_cases K env obj e none
  | none =>
    cases formatted : K.format (K.toMQ obj.spec) with
    | error e => exact setSyncedError_cases K env obj e none
    | ok desiredMQSC =>
      have gate : EnsureGate K env obj admin := ⟨unsuspended, live, finalizer, reaches, supported⟩
      have ensured := K.ensure_cases admin { obj with status := { obj.status with desiredMQSC := desiredMQSC } }
        (K.toMQ obj.spec)
      simp only [writes_bind, writes_reportEnsure]
      simp only [writes]
      generalize (K.ensure admin { obj with status := { obj.status with desiredMQSC := desiredMQSC } }
        (K.toMQ obj.spec)).value = result at ensured ⊢
      generalize (K.ensure admin { obj with status := { obj.status with desiredMQSC := desiredMQSC } }
        (K.toMQ obj.spec)).calls = calls at ensured ⊢
      cases ensured with
      | getFailed e failure other =>
        have plain := classifyReconcileError_reason e
        exact .reported _ ⟨rfl, rfl, rfl⟩ (not_reportsConflict_applyPatch _ _ _ plain.1 plain.2)
      | keysFailed e reads readOnly answered unresolved =>
        rw [filter_isWrite_reads _ readOnly]
        have plain := classifyReconcileError_reason e
        exact .reported _ ⟨rfl, rfl, rfl⟩ (not_reportsConflict_applyPatch _ _ _ plain.1 plain.2)
      | blocked keys block reads readOnly answered resolved refused asked =>
        rw [filter_isWrite_reads _ readOnly]
        exact .blocked admin keys gate ⟨⟨_, formatted⟩, answered, resolved⟩ block refused asked _ ⟨rfl, rfl, rfl⟩
      | drifted keys message reads readOnly answered resolved observing needed =>
        rw [filter_isWrite_reads _ readOnly]
        exact .reported _ ⟨rfl, rfl, rfl⟩ (not_reportsConflict_applyPatch _ _ _
          (show reasonDriftDetected ≠ _ by decide) (show reasonDriftDetected ≠ _ by decide))
      | inSync keys reads readOnly answered resolved unneeded permitted =>
        rw [filter_isWrite_reads _ readOnly]
        exact .synced admin keys gate ⟨⟨_, formatted⟩, answered, resolved⟩ unneeded permitted _ ⟨rfl, rfl, rfl⟩
          (not_reportsConflict_available _ _ _)
      | defineFailed keys e reads readOnly answered resolved acting needed permitted failure =>
        rw [List.filter_append, filter_isWrite_reads _ readOnly]
        have plain := classifyReconcileError_reason e
        have refused : admin.define (K.toMQ obj.spec) ≠ .ok := by
          intro success
          rw [success] at failure
          cases failure
        exact .defineFailed admin keys gate ⟨⟨_, formatted⟩, answered, resolved⟩ acting needed permitted refused _ ⟨rfl, rfl, rfl⟩
          (not_reportsConflict_applyPatch _ _ _ plain.1 plain.2)
      | defined keys reads readOnly answered resolved acting needed permitted success =>
        rw [List.filter_append, filter_isWrite_reads _ readOnly]
        exact .defined admin keys gate ⟨⟨_, formatted⟩, answered, resolved⟩ acting needed permitted success _ ⟨rfl, rfl, rfl⟩
          (not_reportsConflict_available _ _ _)

theorem reach_cases (failed : MqError → Traced (Call K.Spec K.MQSpec) Reconciled)
    (next : Admin K.MQSpec K.State → Traced (Call K.Spec K.MQSpec) Reconciled)
    (failedCase : ∀ e, ReconcileCase K env obj (writes (failed e)))
    (nextCase : ∀ admin, Reaches K env obj admin → ReconcileCase K env obj (writes (next admin))) :
    ReconcileCase K env obj (writes (do
      match ← resolveConnection env obj with
      | .error e => failed e
      | .ok conn =>
        match ← waitForConnectionReady env obj conn with
        | some result => return result
        | none =>
          match ← forConnection env conn with
          | .error e => failed e
          | .ok admin => next admin)) := by
  simp only [writes_bind, writes_resolveConnection, List.nil_append]
  cases lookup : (resolveConnection env obj).value with
  | error e => exact failedCase e
  | ok conn =>
    have found := resolveConnection_ok K env obj lookup
    simp only [writes_bind]
    rcases waitForConnectionReady_cases K env obj conn with ⟨ready, silent, goes⟩ | ⟨waits, result, stops⟩
    · simp only [silent, goes, List.nil_append, writes_bind, writes_forConnection]
      cases port : (forConnection env conn).value with
      | error e => exact failedCase e
      | ok admin => exact nextCase admin ⟨conn, found, ready, port⟩
    · simpa only [stops, writes_pure, List.append_nil] using waits

theorem reconcileLive_cases (unsuspended : workloadSuspended obj = false)
    (live : obj.metadata.deletionTimestamp = none) :
    ReconcileCase K env obj (writes (reconcileLive K env obj)) := by
  unfold reconcileLive
  refine reach_cases K env obj (fun e => setSyncedError env 0 obj e none) _ ?_ ?_
  · exact fun e => setSyncedError_cases K env obj e none
  · intro admin reaches
    by_cases present : K.finalizer ∈ obj.metadata.finalizers
    · simp only [containsFinalizer, present, decide_true, if_true]
      exact ensureAndReport_cases K env obj admin unsuspended live present reaches
    · simp only [containsFinalizer, present, decide_false, Bool.false_eq_true, if_false]
      exact .finalizerAdded unsuspended live present

theorem handleDeletion_cases (admin : Admin K.MQSpec K.State) (gate : DeleteGate K env obj admin) :
    ReconcileCase K env obj (writes (handleDeletion K env obj admin)) := by
  unfold handleDeletion patchSyncedDeleting
  have plain : ¬ReportsConflict (applyPatch env.now obj (reportPatch reasonDeleting K.deletingMessage none true)) :=
    not_reportsConflict_applyPatch _ _ _ (show reasonDeleting ≠ _ by decide) (show reasonDeleting ≠ _ by decide)
  simp only [writes_bind, writes_patchSyncedStatus, value_patchSyncedStatus]
  cases answer : (env.statusUpdate 0).err with
  | some e => exact .reported _ (isReport_reportPatch _ _ _ _ _ _) plain
  | none =>
    have written := (WriteAnswer.err_eq_none_iff _).mp answer
    simp only [writes_bind, writes_call, Traced.value_call, Call.isWrite, if_true]
    cases outcome : (admin.delete (K.toMQ obj.spec)).err with
    | some e =>
      have failure : (admin.delete (K.toMQ obj.spec)).err ≠ none := by
        rw [outcome]
        exact Option.some_ne_none e
      have refused := classifyReconcileError_reason e
      have result : ReconcileCase K env obj _ := .deleteFailed admin gate failure _
        (applyPatch env.now (applyPatch env.now obj (reportPatch reasonDeleting K.deletingMessage none true))
          (reportPatch (classifyReconcileError e).1 (classifyReconcileError e).2 none false))
        (isReport_reportPatch _ _ _ _ _ _) plain written
        ((isReport_reportPatch _ _ _ _ _ _).trans (isReport_reportPatch _ _ _ _ _ _))
        (not_reportsConflict_applyPatch _ _ _ refused.1 refused.2)
      rw [show (applyPatch env.now obj (reportPatch reasonDeleting K.deletingMessage none true)).spec = obj.spec from rfl,
        outcome]
      simp only [writes_setSyncedError]
      exact result
    | none =>
      have result : ReconcileCase K env obj _ := .deleted admin gate outcome _ (isReport_reportPatch _ _ _ _ _ _) plain
        written
      rw [show (applyPatch env.now obj (reportPatch reasonDeleting K.deletingMessage none true)).spec = obj.spec from rfl,
        outcome]
      exact result

theorem reconcileWorkloadDeletion_cases (unsuspended : workloadSuspended obj = false)
    (deleting : obj.metadata.deletionTimestamp.isSome = true) :
    ReconcileCase K env obj (writes (reconcileWorkloadDeletion K env obj)) := by
  unfold reconcileWorkloadDeletion
  by_cases present : K.finalizer ∈ obj.metadata.finalizers
  · simp only [containsFinalizer, present, decide_true, Bool.not_true, Bool.false_eq_true, if_false]
    cases requested : orphanDeletionRequested obj with
    | true =>
      simp only [if_true]
      exact orphanFinalizeWorkload_cases K env obj unsuspended deleting present requested _
    | false =>
      simp only [Bool.false_eq_true, if_false]
      exact reach_cases K env obj _ _ (deletionAwaitingConnection_cases K env obj)
        (fun admin reaches => handleDeletion_cases K env obj admin ⟨unsuspended, deleting, present, requested, reaches⟩)
  · simp only [containsFinalizer, present, decide_false, Bool.not_false, if_true]
    exact .quiet

/-- One reconcile of a resource writes what one of the cases lists, and nothing else. -/
theorem reconcileWorkload_cases : ReconcileCase K env obj (writes (reconcileWorkload K env obj)) := by
  unfold reconcileWorkload
  cases suspended : workloadSuspended obj with
  | true => exact suspended_cases K env obj
  | false =>
    cases deleting : obj.metadata.deletionTimestamp with
    | none => exact reconcileLive_cases K env obj suspended deleting
    | some time => exact reconcileWorkloadDeletion_cases K env obj suspended (by rw [deleting]; rfl)

/-- Every port that the reconcile may get shows this object, to be compared on these keys. -/
def ReadsBack (state : K.State) (keys : List String) : Prop :=
  ∀ admin, Reaches K env obj admin →
    admin.get (K.toMQ obj.spec) = (some state, none) ∧ K.driftKeys admin (K.toMQ obj.spec) = .ok keys

theorem no_define_of_readsBack {state : K.State} {keys : List String} (reads : ReadsBack K env obj state keys)
    (same : K.differs keys (K.toMQ obj.spec) state = false) (spec : K.MQSpec) :
    .define spec ∉ (reconcileWorkload K env obj).calls := by
  have unneeded : ∀ admin keys', Reaches K env obj admin → Observation K obj admin keys' →
      K.needsUpdate keys' (K.toMQ obj.spec) (K.observed admin (K.toMQ obj.spec)) = false := by
    intro admin keys' reaches seen
    obtain ⟨shown, resolved⟩ := reads admin reaches
    have found : K.observed admin (K.toMQ obj.spec) = some state := by rw [KindBase.observed, shown]
    obtain rfl : keys = keys' := Except.ok.inj (resolved.symm.trans seen.resolved)
    rw [found]
    exact same
  rw [mem_writes rfl]
  intro member
  have done := reconcileWorkload_cases K env obj
  generalize writes (reconcileWorkload K env obj) = written at done member
  cases done with
  | defineFailed admin keys' gate seen acting needed =>
    rw [unneeded admin keys' gate.reaches seen] at needed
    cases needed
  | defined admin keys' gate seen acting needed =>
    rw [unneeded admin keys' gate.reaches seen] at needed
    cases needed
  | _ => simp at member

end Flow

end MKurator.Controller
