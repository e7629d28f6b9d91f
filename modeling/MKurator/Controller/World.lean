import MKurator.Controller.Gate
import MKurator.Lib.System
import Mathlib.Logic.Function.Basic

/-! One custom resource, the connections it can name and the queue managers behind them, over any order of reconciles,
edits, deletion and changes made in IBM MQ. An edit comes before or after a reconcile; changes in IBM MQ may also come
between what a reconcile reads there and what it writes. -/

namespace MKurator.Controller
open MKurator.Api MKurator.MqAdmin MKurator.Lib MKurator.Lib.Strings

structure ManagerAddress where
  endpoint : String
  restPrefix : String
  queueManager : String
  deriving DecidableEq, Repr

def managerAddress (conn : QueueManagerConnection) : ManagerAddress :=
  ⟨conn.spec.endpoint, conn.spec.restPrefix, conn.spec.queueManager⟩

/-- The part of an MQ object's history that concerns one custom resource. What the object contains is left to the
answers of GET. -/
structure Provenance where
  /-- It came to be by a Define or Set of this resource that was answered with success. -/
  created : Bool
  /-- Some Define or Set of this resource for it was answered with success. -/
  defined : Bool
  /-- It was there, and not created by this resource, when the spec came to name it. -/
  prior : Bool
  /-- A Define or Set of this resource made it, or a reconcile found it and the adoption policy let the resource take it
  over. -/
  owned : Bool
  deriving DecidableEq, Repr

/-- An object that someone else made while the spec already named it, or never did. -/
def Provenance.foreign : Provenance := ⟨false, false, false, false⟩

/-- The API server drops a deleting resource with its last finalizer. -/
def retained {σ : Type} (obj : Workload σ) : Option (Workload σ) :=
  if obj.metadata.deletionTimestamp.isSome && obj.metadata.finalizers.isEmpty then none else some obj

theorem retained_eq_some {σ : Type} {obj kept : Workload σ} (stays : retained obj = some kept) : kept = obj := by
  unfold retained at stays
  split at stays
  · cases stays
  · exact (Option.some.inj stays).symm

section Worlds

variable (K : Kind)

abbrev ObjectAddress := ManagerAddress × K.Ident

/-- A reconcile that ran: the resource it read, what it met, and the object that the spec named then. -/
structure ReconcileRecord where
  obj : Workload K.Spec
  env : Env K.Spec K.MQSpec K.State
  address : ObjectAddress K

structure World where
  cr : Option (Workload K.Spec)
  managers : String → ManagerAddress
  mq : ObjectAddress K → Option Provenance
  /-- The operator has removed its finalizer. -/
  released : Bool
  log : List (ReconcileRecord K)

namespace World

variable {K} (w : World K)

def address (obj : Workload K.Spec) : ObjectAddress K :=
  (w.managers (connectionRefName obj), K.ident (K.toMQ obj.spec))

def storeStatus (answer : WriteAnswer) (obj : Workload K.Spec) : World K :=
  if answer.applied then { w with cr := w.cr.map fun stored => { stored with status := obj.status } } else w

def storeFinalizers (answer : WriteAnswer) (obj : Workload K.Spec) : World K :=
  if answer.applied then
    { w with
      cr := w.cr.bind fun stored =>
        retained { stored with metadata := { stored.metadata with finalizers := obj.metadata.finalizers } }
      released := w.released || !containsFinalizer obj K.finalizer }
  else w

/-- A Define or Set creates a missing object and changes an existing one. -/
def defineAt (answer : WriteAnswer) (target : ObjectAddress K) : World K :=
  if answer.applied then
    { w with
      mq := Function.update w.mq target (some ((w.mq target).elim ⟨answer = .ok, answer = .ok, false, true⟩
        fun object => { object with defined := object.defined || answer = .ok })) }
  else w

def deleteAt (answer : DeleteAnswer) (target : ObjectAddress K) : World K :=
  if answer.applied then { w with mq := Function.update w.mq target none } else w

def markPrior (target : ObjectAddress K) : World K :=
  { w with
    mq := Function.update w.mq target
      ((w.mq target).map fun object => { object with prior := object.prior || !object.created }) }

/-- The writes of a reconcile take effect in order; `n` counts the status writes so far. -/
def applyWrites (env : Env K.Spec K.MQSpec K.State) (admin : Option (Admin K.MQSpec K.State))
    (target : ObjectAddress K) (w : World K) (n : Nat) : List (Call K.Spec K.MQSpec) → World K
  | [] => w
  | .statusUpdate obj :: rest => applyWrites env admin target (w.storeStatus (env.statusUpdate n) obj) (n + 1) rest
  | .update obj :: rest => applyWrites env admin target (w.storeFinalizers env.update obj) n rest
  | .define spec :: rest =>
    applyWrites env admin target (admin.elim w fun port => w.defineAt (port.define spec) target) n rest
  | .delete spec :: rest =>
    applyWrites env admin target (admin.elim w fun port => w.deleteAt (port.delete spec) target) n rest
  | _ :: rest => applyWrites env admin target w n rest

end World

/-- `reconcile` carries the objects that its MQ writes meet. -/
inductive Act where
  | reconcile (env : Env K.Spec K.MQSpec K.State) (met : ObjectAddress K → Option Provenance)
  | edit (new : Workload K.Spec)
  | delete (time : Nat)
  | changeMQ (mq : ObjectAddress K → Option Provenance)
  | changeConnection (name : String) (manager : ManagerAddress)

variable {K}

/-- Others leave an object as it is, remove it, or make a new one. -/
def ForeignChange (before after : ObjectAddress K → Option Provenance) : Prop :=
  ∀ target, after target = before target ∨ after target = none ∨ after target = some .foreign

/-- The policies that let a resource take over an object it did not make. -/
def policyAdmits (policy : AdoptionPolicy) (matching : Bool) : Bool :=
  match policy with
  | .adopt => true
  | .adoptIfMatching => matching
  | .failIfExists => false

/-- The reconcile comes to look at the object, finds it, and the policy lets the resource take it over. -/
def takesOver (env : Env K.Spec K.MQSpec K.State) (obj : Workload K.Spec) : Bool :=
  !workloadSuspended obj && obj.metadata.deletionTimestamp.isNone && containsFinalizer obj K.finalizer &&
    (K.unsupported obj.spec).isNone && (K.format (K.toMQ obj.spec)).toOption.isSome &&
    match portFor K env (connectionRefName obj) with
    | none => false
    | some admin =>
      match admin.get (K.toMQ obj.spec), K.driftKeys admin (K.toMQ obj.spec) with
      | (some state, err), .ok keys => err.all MqError.isNotFound &&
          policyAdmits (workloadAdoptionPolicy obj) (!K.differs keys (K.toMQ obj.spec) state)
      | _, _ => false

/-- An edit keeps the status and the deletion time, and bumps the generation with every change of the spec. -/
structure IsEdit (stored new : Workload K.Spec) : Prop where
  status : new.status = stored.status
  deletion : new.metadata.deletionTimestamp = stored.metadata.deletionTimestamp
  generation : (new.spec = stored.spec ∧ new.metadata.generation = stored.metadata.generation) ∨
    (new.spec ≠ stored.spec ∧ new.metadata.generation = stored.metadata.generation + 1)

namespace World

/-- The objects once a reconcile has looked at the one that the spec names, before anything is written. -/
def examined (w : World K) (env : Env K.Spec K.MQSpec K.State) : ObjectAddress K → Option Provenance :=
  match env.object with
  | .found obj =>
    if takesOver env obj then
      Function.update w.mq (w.address obj) ((w.mq (w.address obj)).map fun object => { object with owned := true })
    else w.mq
  | .notFound _ | .failed _ => w.mq

def Valid (w : World K) : Act K → Prop
  | .reconcile env met =>
    (∀ obj, env.object = .found obj → w.cr = some obj) ∧
    (∀ name conn, env.connection name = .found conn → managerAddress conn = w.managers name) ∧
    ForeignChange (w.examined env) met
  | .edit new => ∃ stored, w.cr = some stored ∧ IsEdit stored new
  | .delete _ => ∃ stored, w.cr = some stored ∧ stored.metadata.deletionTimestamp = none
  | .changeMQ mq => ForeignChange w.mq mq
  | .changeConnection .. => True

variable [UnicodeTables]

def next (w : World K) : Act K → World K
  | .reconcile env met =>
    match env.object with
    | .found obj =>
      let after := applyWrites env (portFor K env (connectionRefName obj)) (w.address obj) { w with mq := met } 0
        (writes (Controller.reconcile K env))
      { after with log := ⟨obj, env, w.address obj⟩ :: w.log }
    | .notFound _ | .failed _ => { w with mq := met }
  | .edit new =>
    let stored : World K := { w with cr := retained new }
    if w.cr.map w.address = some (w.address new) then stored else stored.markPrior (w.address new)
  | .delete time =>
    { w with cr := w.cr.bind fun stored => retained { stored with metadata :=
      { stored.metadata with generation := stored.metadata.generation + 1, deletionTimestamp := some time } } }
  | .changeMQ mq => { w with mq := mq }
  | .changeConnection name manager =>
    let stored : World K := { w with managers := Function.update w.managers name manager }
    match w.cr with
    | none => stored
    | some obj => if stored.address obj = w.address obj then stored else stored.markPrior (stored.address obj)

theorem cr_edit (w : World K) (new : Workload K.Spec) : (w.next (.edit new)).cr = retained new := by
  simp only [next]
  split <;> rfl

theorem cr_changeConnection (w : World K) (name : String) (manager : ManagerAddress) :
    (w.next (.changeConnection name manager)).cr = w.cr := by
  simp only [next]
  split
  · rfl
  · split <;> rfl

end World

def lifecycle [UnicodeTables] (K : Kind) : System (World K) (Act K) where
  valid := World.Valid
  next := World.next

end Worlds

section Calm

variable {K : Kind} (w : World K)

def calmManager : ManagerAddress := managerAddress (readyConnection "qm1")

def World.calmPort (state : K.State) : Admin K.MQSpec K.State where
  get spec :=
    if (w.mq (calmManager, K.ident spec)).isSome then (some state, none) else (none, some (.notFound K.kindName))
  localDriftKeys := .ok ["descr", "maxdepth"]
  define _ := .ok
  delete _ := .ok

def World.calm (state : K.State) (status : WriteAnswer) : Env K.Spec K.MQSpec K.State :=
  { readyCluster K (w.cr.elim (.notFound (.plain "not found")) .found) (w.calmPort state) with
    statusUpdate := fun _ => status }

def World.calmAct (state : K.State) (status : WriteAnswer) : Act K :=
  .reconcile (w.calm state status) (w.examined (w.calm state status))

theorem World.valid_calm (state : K.State) (status : WriteAnswer) (managers : w.managers = fun _ => calmManager) :
    w.Valid (w.calmAct state status) := by
  refine ⟨?_, ?_, fun _ => .inl rfl⟩
  · intro obj read
    cases stored : w.cr with
    | none => simp [calm, readyCluster, stored] at read
    | some other => simpa [calm, readyCluster, stored] using read
  · intro name conn found
    rw [managers]
    cases found
    rfl

theorem reach_calm [UnicodeTables] {allowed : World K → Act K → Prop} {first last : World K}
    (run : (lifecycle K).Reach allowed first last) (state : K.State) (status : WriteAnswer)
    (managers : last.managers = fun _ => calmManager) (permitted : allowed last (last.calmAct state status)) :
    (lifecycle K).Reach allowed first (last.next (last.calmAct state status)) :=
  run.step (last.calmAct state status) (last.valid_calm state status managers) permitted

end Calm

end MKurator.Controller
