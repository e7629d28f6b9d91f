import MKurator.Controller.Policy
import MKurator.Lib.Traced

/-! The steps that the workload reconcilers share, as programs that record their calls to the API server and to IBM MQ.
The answers to those calls are parameters: any read may fail, and any write may fail or take effect and still report
an error. -/

namespace MKurator.Controller
open MKurator.Api MKurator.MqAdmin MKurator.Lib MKurator.Lib.Strings

/-- The answer to a write. A `lost` write took effect although its caller sees an error. -/
inductive WriteAnswer where
  | ok
  | failed (e : MqError)
  | lost (e : MqError)
  deriving DecidableEq, Repr

namespace WriteAnswer

def err : WriteAnswer → Option MqError
  | .ok => none
  | .failed e | .lost e => some e

def applied : WriteAnswer → Bool
  | .ok | .lost _ => true
  | .failed _ => false

@[simp] theorem err_eq_none_iff (answer : WriteAnswer) : answer.err = none ↔ answer = .ok := by
  cases answer <;> simp [err]

end WriteAnswer

/-- The answer to a Delete. A `forgiven` one removed nothing: the command failed, and the adapter returned nil because it
read the failure as that of a missing object, which may still be there. -/
inductive DeleteAnswer where
  | ok
  | forgiven
  | failed (e : MqError)
  | lost (e : MqError)
  deriving DecidableEq, Repr

namespace DeleteAnswer

def err : DeleteAnswer → Option MqError
  | .ok | .forgiven => none
  | .failed e | .lost e => some e

def applied : DeleteAnswer → Bool
  | .ok | .lost _ => true
  | .forgiven | .failed _ => false

end DeleteAnswer

inductive Lookup (α : Type) where
  | found (a : α)
  | notFound (e : MqError)
  | failed (e : MqError)

/-- The `Admin` port as one reconcile sees it: the answers to its calls for objects with spec `μ` and state `τ`. -/
structure Admin (μ τ : Type) where
  get : μ → Option τ × Option MqError
  localDriftKeys : Except MqError (List String)
  define : μ → WriteAnswer
  delete : μ → DeleteAnswer

/-- Requeue delays; the setters ignore values that are not positive. -/
structure Intervals where
  connectionWait : Nat
  transientRequeue : Nat
  driftResyncAfter : Nat
  connectionWait_pos : 0 < connectionWait
  transientRequeue_pos : 0 < transientRequeue
  driftResyncAfter_pos : 0 < driftResyncAfter

/-- Everything outside one reconcile: what it reads, and how its writes are answered. `statusUpdate n` answers the
`n`-th status write. -/
structure Env (σ μ τ : Type) where
  now : Nat
  intervals : Intervals
  object : Lookup (Workload σ)
  connection : String → Lookup QueueManagerConnection
  forConnection : QueueManagerConnection → Except MqError (Admin μ τ)
  statusUpdate : Nat → WriteAnswer
  update : WriteAnswer

/-- The external calls of a reconcile, after the read of the resource itself. -/
inductive Call (σ μ : Type) where
  | getConnection (ns name : String)
  | forConnection (name : String)
  | statusUpdate (obj : Workload σ)
  | update (obj : Workload σ)
  | event (warning : Bool) (reason message : String)
  | getObject (spec : μ)
  | localDriftKeys
  | define (spec : μ)
  | delete (spec : μ)

namespace Call

variable {σ μ : Type}

def isMQ : Call σ μ → Bool
  | .getObject _ | .localDriftKeys | .define _ | .delete _ => true
  | _ => false

def isMQWrite : Call σ μ → Bool
  | .define _ | .delete _ => true
  | _ => false

def isWrite : Call σ μ → Bool
  | .statusUpdate _ | .update _ | .define _ | .delete _ => true
  | _ => false

def isConnectionLookup : Call σ μ → Bool
  | .getConnection .. | .forConnection _ => true
  | _ => false

def isMQRead : Call σ μ → Bool
  | .getObject _ | .localDriftKeys => true
  | _ => false

end Call

/-- `ctrl.Result` and the returned error; a delay of 0 asks for no requeue. -/
structure Reconciled where
  requeueAfter : Nat
  err : Option MqError
  deriving DecidableEq, Repr

structure SyncedStatusPatch where
  conditionStatus : ConditionStatus
  reason : String
  message : String
  mqObjectExists : Option Bool
  lastSync : Option Nat
  setObservedGen : Bool
  emitEvent : Bool

section Status

variable {σ μ τ : Type}

/-- The fields that `patchSyncedStatus` changes on the resource in memory. -/
def applyPatch (now : Nat) (obj : Workload σ) (patch : SyncedStatusPatch) : Workload σ :=
  { obj with status := { obj.status with
      conditions := setCondition now conditionSynced patch.conditionStatus patch.reason patch.message
        obj.metadata.generation obj.status.conditions
      observedGeneration := if patch.setObservedGen then obj.metadata.generation else obj.status.observedGeneration
      message := patch.message
      lastSyncTime := patch.lastSync <|> obj.status.lastSyncTime
      mqObjectExists := patch.mqObjectExists <|> obj.status.mqObjectExists } }

def emitSyncedTransitionEvent (obj : Workload σ) (status : ConditionStatus) (reason message : String) :
    Traced (Call σ μ) Unit :=
  if conditionChanged obj.status.conditions conditionSynced status reason then
    .call (.event false reason message) ()
  else pure ()

/-- Returns the patched resource with the error of its status write, which is the `n`-th of this reconcile. -/
def patchSyncedStatus (env : Env σ μ τ) (n : Nat) (obj : Workload σ) (patch : SyncedStatusPatch) :
    Traced (Call σ μ) (Workload σ × Option MqError) := do
  if patch.emitEvent then
    emitSyncedTransitionEvent obj patch.conditionStatus patch.reason patch.message
  let patched := applyPatch env.now obj patch
  let answer ← .call (.statusUpdate patched) (env.statusUpdate n)
  return (patched, answer.err)

/-- A patch to `Synced=False` that only reports; the kinds of report differ in reason and message. -/
def reportPatch (reason message : String) (mqObjectExists : Option Bool) (emitEvent : Bool) : SyncedStatusPatch where
  conditionStatus := .conditionFalse
  reason := reason
  message := message
  mqObjectExists := mqObjectExists
  lastSync := none
  setObservedGen := false
  emitEvent := emitEvent

def patchSyncedProgressing (env : Env σ μ τ) (obj : Workload σ) (message : String) :
    Traced (Call σ μ) (Workload σ × Option MqError) :=
  patchSyncedStatus env 0 obj (reportPatch reasonProgressing message none true)

def patchSyncedSuspended (env : Env σ μ τ) (obj : Workload σ) (message : String) :
    Traced (Call σ μ) (Workload σ × Option MqError) :=
  patchSyncedStatus env 0 obj (reportPatch reasonSuspended message none true)

def patchSyncedDeleting (env : Env σ μ τ) (obj : Workload σ) (message : String) :
    Traced (Call σ μ) (Workload σ × Option MqError) :=
  patchSyncedStatus env 0 obj (reportPatch reasonDeleting message none true)

def patchSyncedOrphaned (env : Env σ μ τ) (obj : Workload σ) (message : String) :
    Traced (Call σ μ) (Workload σ × Option MqError) :=
  patchSyncedStatus env 0 obj (reportPatch reasonOrphaned message none true)

def patchSyncedDrift (env : Env σ μ τ) (obj : Workload σ) (message : String) (mqObjectExists : Bool) :
    Traced (Call σ μ) (Workload σ × Option MqError) :=
  patchSyncedStatus env 0 obj (reportPatch reasonDriftDetected message (some mqObjectExists) true)

def patchSyncedAdoptionBlocked (env : Env σ μ τ) (obj : Workload σ) (block : AdoptionBlockedError)
    (mqObjectExists : Bool) : Traced (Call σ μ) (Workload σ × Option MqError) :=
  patchSyncedStatus env 0 obj (reportPatch block.reason block.message (some mqObjectExists) true)

/-- The only patch that records the generation as synced. -/
def availablePatch (now : Nat) (message : String) : SyncedStatusPatch where
  conditionStatus := .conditionTrue
  reason := reasonAvailable
  message := message
  mqObjectExists := some true
  lastSync := some now
  setObservedGen := true
  emitEvent := true

def patchSyncedAvailable (env : Env σ μ τ) (obj : Workload σ) (message : String) :
    Traced (Call σ μ) (Workload σ × Option MqError) :=
  patchSyncedStatus env 0 obj (availablePatch env.now message)

variable [UnicodeTables]

def recordReconcileWarning (e : MqError) : Traced (Call σ μ) Unit :=
  if e.isTransient then pure ()
  else
    let (reason, message) := classifyReconcileError e
    .call (.event true reason message) ()

/-- Transient errors are retried after a delay, terminal ones wait for a change, and all others are returned. -/
def setSyncedError (env : Env σ μ τ) (n : Nat) (obj : Workload σ) (e : MqError) (mqObjectExists : Option Bool) :
    Traced (Call σ μ) Reconciled := do
  recordReconcileWarning e
  let (reason, message) := classifyReconcileError e
  let requeueAfter := if e.isTransient then env.intervals.transientRequeue else 0
  let reconcileErr := if e.isTransient || e.isTerminal then none else some e
  let (_, patchErr) ← patchSyncedStatus env n obj (reportPatch reason message mqObjectExists false)
  match patchErr with
  | some patchErr => return ⟨requeueAfter, some patchErr⟩
  | none => return ⟨requeueAfter, reconcileErr⟩

def handleAdoptionBlock (env : Env σ μ τ) (obj : Workload σ) (block : AdoptionBlockedError) (mqObjectExists : Bool) :
    Traced (Call σ μ) Reconciled := do
  let (_, patchErr) ← patchSyncedAdoptionBlocked env obj block mqObjectExists
  match patchErr with
  | some e => return ⟨0, some e⟩
  | none => return ⟨env.intervals.driftResyncAfter, none⟩

def workloadAlreadySuspended (obj : Workload σ) (generation : Nat) : Bool :=
  obj.status.conditions.any fun c =>
    c.type == conditionSynced && c.status == .conditionFalse && c.reason == reasonSuspended &&
      c.observedGeneration == generation

def reconcileWorkloadSuspended (env : Env σ μ τ) (obj : Workload σ) : Traced (Call σ μ) Reconciled := do
  if workloadAlreadySuspended obj obj.metadata.generation then return ⟨0, none⟩
  let (_, patchErr) ← patchSyncedSuspended env obj "Reconciliation suspended"
  return ⟨0, patchErr⟩

variable [WorkloadSpec σ]

def resolveConnection (env : Env σ μ τ) (obj : Workload σ) :
    Traced (Call σ μ) (Except MqError QueueManagerConnection) := do
  let name := connectionRefName obj
  match ← .call (.getConnection obj.metadata.ns name) (env.connection name) with
  | .found conn => return .ok conn
  | .notFound e => return .error (.connectionNotFound name e)
  | .failed e => return .error (.wrapped ("get connection " ++ quote name) e)

/-- `none` when the connection is ready, otherwise the result with which the reconcile ends. -/
def waitForConnectionReady (env : Env σ μ τ) (obj : Workload σ) (conn : QueueManagerConnection) :
    Traced (Call σ μ) (Option Reconciled) := do
  if conditionsReady conn.conditions then return none
  let (_, patchErr) ← patchSyncedProgressing env obj (connectionWaitMessage conn)
  match patchErr with
  | some e => return some ⟨0, some e⟩
  | none => return some ⟨env.intervals.connectionWait, none⟩

/-- `MQFactory.ForConnection`, which reads the connection's Secrets. -/
def forConnection (env : Env σ μ τ) (conn : QueueManagerConnection) :
    Traced (Call σ μ) (Except MqError (Admin μ τ)) :=
  .call (.forConnection conn.metadata.name) (env.forConnection conn)

def deletionAwaitingConnection (env : Env σ μ τ) (obj : Workload σ) (e : MqError) : Traced (Call σ μ) Reconciled := do
  let (_, patchErr) ← patchSyncedProgressing env obj ("Deletion waiting for connection: " ++ e.text)
  return ⟨env.intervals.connectionWait, patchErr⟩

def orphanFinalizeWorkload (env : Env σ μ τ) (obj : Workload σ) (finalizer message : String) :
    Traced (Call σ μ) Reconciled := do
  let (patched, patchErr) ← patchSyncedOrphaned env obj message
  match patchErr with
  | some e => return ⟨0, some e⟩
  | none =>
    .call (.event false reasonOrphaned message) ()
    let answer ← .call (.update (removeFinalizer patched finalizer)) env.update
    return ⟨0, answer.err⟩

end Status

end MKurator.Controller
