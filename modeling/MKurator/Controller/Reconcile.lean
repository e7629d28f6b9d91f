import MKurator.Controller.Steps

/-! The reconcile flow that the five workload kinds share, over what tells one kind from another. -/

namespace MKurator.Controller
open MKurator.Api MKurator.MqAdmin MKurator.Lib MKurator.Lib.Strings

inductive EnsureError where
  | blocked (block : AdoptionBlockedError)
  | failed (e : MqError)

/-- `drift` is the message of an observe-only difference. -/
structure EnsureResult where
  mqExists : Bool
  drift : Option String
  err : Option EnsureError

structure KindBase where
  Spec : Type
  MQSpec : Type
  State : Type
  /-- What names one object on a queue manager. -/
  Ident : Type
  [workloadSpec : WorkloadSpec Spec]
  [identEq : DecidableEq Ident]
  kindName : String
  finalizer : String
  orphanedMessage : String
  deletingMessage : String
  deletedMessage : String
  syncedMessage : String
  toMQ : Spec → MQSpec
  ident : MQSpec → Ident
  /-- A check on the spec before it is rendered; only channels have one. -/
  unsupported : Spec → Option MqError
  format : MQSpec → Except MqError String
  driftKeys : Admin MQSpec State → MQSpec → Except MqError (List String)
  /-- Some drift-checked value of an existing object differs from the spec. -/
  differs : List String → MQSpec → State → Bool
  objectLabel : MQSpec → String
  mismatchMessage : List String → MQSpec → Option State → String
  /-- Whether observe-only is looked at before the adoption policy. -/
  observeOnlyFirst : Bool

attribute [instance] KindBase.workloadSpec KindBase.identEq

namespace KindBase

variable (B : KindBase)

def GetAnswered (admin : Admin B.MQSpec B.State) (spec : B.MQSpec) : Prop :=
  ∀ e, (admin.get spec).2 = some e → e.isNotFound = true

def observed (admin : Admin B.MQSpec B.State) (spec : B.MQSpec) : Option B.State := (admin.get spec).1

def needsUpdate (keys : List String) (spec : B.MQSpec) : Option B.State → Bool
  | none => true
  | some state => B.differs keys spec state

def adoptionBlock (keys : List String) (obj : Workload B.Spec) (spec : B.MQSpec) (state : Option B.State) :
    Option AdoptionBlockedError :=
  adoptionBlockForExisting (workloadAdoptionPolicy obj) (workloadFirstAdoption obj) state.isSome
    (B.needsUpdate keys spec state) (B.objectLabel spec) (B.mismatchMessage keys spec state)

/-- All that an ensure step can do, with the calls it makes and its result. -/
inductive EnsureCase (admin : Admin B.MQSpec B.State) (obj : Workload B.Spec) (spec : B.MQSpec) :
    List (Call B.Spec B.MQSpec) → EnsureResult → Prop
  | getFailed (e : MqError) (failure : (admin.get spec).2 = some e) (other : e.isNotFound = false) :
      EnsureCase admin obj spec [.getObject spec] ⟨false, none, some (.failed e)⟩
  | keysFailed (e : MqError) (reads : List (Call B.Spec B.MQSpec)) (readOnly : ∀ call ∈ reads, call.isMQRead = true)
      (answered : B.GetAnswered admin spec) (unresolved : B.driftKeys admin spec = .error e) :
      EnsureCase admin obj spec reads ⟨false, none, some (.failed e)⟩
  | blocked (keys : List String) (block : AdoptionBlockedError) (reads : List (Call B.Spec B.MQSpec))
      (readOnly : ∀ call ∈ reads, call.isMQRead = true) (answered : B.GetAnswered admin spec)
      (resolved : B.driftKeys admin spec = .ok keys)
      (refused : B.adoptionBlock keys obj spec (B.observed admin spec) = some block)
      (asked : ¬(B.observeOnlyFirst = true ∧ isObserveOnly obj = true)) :
      EnsureCase admin obj spec reads ⟨(B.observed admin spec).isSome, none, some (.blocked block)⟩
  | drifted (keys : List String) (message : String) (reads : List (Call B.Spec B.MQSpec))
      (readOnly : ∀ call ∈ reads, call.isMQRead = true) (answered : B.GetAnswered admin spec)
      (resolved : B.driftKeys admin spec = .ok keys) (observing : isObserveOnly obj = true)
      (needed : B.needsUpdate keys spec (B.observed admin spec) = true) :
      EnsureCase admin obj spec reads ⟨(B.observed admin spec).isSome, some message, none⟩
  | inSync (keys : List String) (reads : List (Call B.Spec B.MQSpec))
      (readOnly : ∀ call ∈ reads, call.isMQRead = true) (answered : B.GetAnswered admin spec)
      (resolved : B.driftKeys admin spec = .ok keys)
      (unneeded : B.needsUpdate keys spec (B.observed admin spec) = false)
      (permitted : B.adoptionBlock keys obj spec (B.observed admin spec) = none ∨
        (B.observeOnlyFirst = true ∧ isObserveOnly obj = true)) :
      EnsureCase admin obj spec reads ⟨true, none, none⟩
  | defineFailed (keys : List String) (e : MqError) (reads : List (Call B.Spec B.MQSpec))
      (readOnly : ∀ call ∈ reads, call.isMQRead = true) (answered : B.GetAnswered admin spec)
      (resolved : B.driftKeys admin spec = .ok keys) (acting : isObserveOnly obj = false)
      (needed : B.needsUpdate keys spec (B.observed admin spec) = true)
      (permitted : B.adoptionBlock keys obj spec (B.observed admin spec) = none)
      (failure : (admin.define spec).err = some e) :
      EnsureCase admin obj spec (reads ++ [.define spec])
        ⟨(B.observed admin spec).isSome, none, some (.failed e)⟩
  | defined (keys : List String) (reads : List (Call B.Spec B.MQSpec))
      (readOnly : ∀ call ∈ reads, call.isMQRead = true) (answered : B.GetAnswered admin spec)
      (resolved : B.driftKeys admin spec = .ok keys) (acting : isObserveOnly obj = false)
      (needed : B.needsUpdate keys spec (B.observed admin spec) = true)
      (permitted : B.adoptionBlock keys obj spec (B.observed admin spec) = none)
      (success : admin.define spec = .ok) :
      EnsureCase admin obj spec (reads ++ [.define spec]) ⟨true, none, none⟩

end KindBase

/-- A workload kind with its ensure step. It does nothing but what `EnsureCase` lists, and of the resource it reads only
the observe-only annotation, the adoption policy and whether a sync was ever recorded. -/
structure Kind extends KindBase where
  ensure : Admin MQSpec State → Workload Spec → MQSpec → Traced (Call Spec MQSpec) EnsureResult
  ensure_cases : ∀ admin obj spec,
    toKindBase.EnsureCase admin obj spec (ensure admin obj spec).calls (ensure admin obj spec).value
  ensure_congr : ∀ admin (obj obj' : Workload Spec) spec, isObserveOnly obj = isObserveOnly obj' →
    workloadAdoptionPolicy obj = workloadAdoptionPolicy obj' → workloadFirstAdoption obj = workloadFirstAdoption obj' →
    ensure admin obj spec = ensure admin obj' spec

theorem Kind.define_of_synced (K : Kind) {admin : Admin K.MQSpec K.State} {spec : K.MQSpec} {state : K.State} {keys : List String}
    (shown : admin.get spec = (some state, none)) (resolved : K.driftKeys admin spec = .ok keys)
    (differs : K.differs keys spec state = true) (obj : Workload K.Spec)
    (fine : (K.ensure admin obj spec).value.err = none) (still : (K.ensure admin obj spec).value.drift = none) :
    .define spec ∈ (K.ensure admin obj spec).calls := by
  have found : K.observed admin spec = some state := by rw [KindBase.observed, shown]
  have ensured := K.ensure_cases admin obj spec
  generalize (K.ensure admin obj spec).calls = calls at ensured ⊢
  generalize (K.ensure admin obj spec).value = result at ensured fine still
  cases ensured with
  | inSync keys' reads readOnly answered resolved' unneeded =>
    obtain rfl : keys = keys' := Except.ok.inj (resolved.symm.trans resolved')
    rw [found] at unneeded
    exact absurd (differs.symm.trans unneeded) Bool.true_eq_false.mp
  | defined => exact List.mem_append_right _ (List.mem_singleton.mpr rfl)
  | drifted => cases still
  | _ => cases fine

section Flow

variable [UnicodeTables] (K : Kind)

def reportEnsure (env : Env K.Spec K.MQSpec K.State) (obj : Workload K.Spec) (out : EnsureResult) :
    Traced (Call K.Spec K.MQSpec) Reconciled :=
  match out.err with
  | some (.blocked block) => handleAdoptionBlock env obj block out.mqExists
  | some (.failed e) => setSyncedError env 0 obj e (some out.mqExists)
  | none =>
    match out.drift with
    | some message => do
      let (_, patchErr) ← patchSyncedDrift env obj message out.mqExists
      match patchErr with
      | some e => return ⟨0, some (.wrapped "update status" e)⟩
      | none => return ⟨env.intervals.driftResyncAfter, none⟩
    | none => do
      let (_, patchErr) ← patchSyncedAvailable env obj K.syncedMessage
      match patchErr with
      | some e => return ⟨0, some (.wrapped "update status" e)⟩
      | none => return ⟨env.intervals.driftResyncAfter, none⟩

def ensureAndReport (env : Env K.Spec K.MQSpec K.State) (obj : Workload K.Spec) (admin : Admin K.MQSpec K.State) :
    Traced (Call K.Spec K.MQSpec) Reconciled :=
  match K.unsupported obj.spec with
  | some e => setSyncedError env 0 obj e none
  | none =>
    match K.format (K.toMQ obj.spec) with
    | .error e => setSyncedError env 0 obj e none
    | .ok desiredMQSC => do
      let obj := { obj with status := { obj.status with desiredMQSC := desiredMQSC } }
      let out ← K.ensure admin obj (K.toMQ obj.spec)
      reportEnsure K env obj out

def reconcileLive (env : Env K.Spec K.MQSpec K.State) (obj : Workload K.Spec) :
    Traced (Call K.Spec K.MQSpec) Reconciled := do
  match ← resolveConnection env obj with
  | .error e => setSyncedError env 0 obj e none
  | .ok conn =>
    match ← waitForConnectionReady env obj conn with
    | some result => return result
    | none =>
      match ← forConnection env conn with
      | .error e => setSyncedError env 0 obj e none
      | .ok admin =>
        if containsFinalizer obj K.finalizer then ensureAndReport K env obj admin
        else
          let answer ← .call (.update (addFinalizer obj K.finalizer)) env.update
          return ⟨0, answer.err.map (.wrapped "add finalizer")⟩

def handleDeletion (env : Env K.Spec K.MQSpec K.State) (obj : Workload K.Spec) (admin : Admin K.MQSpec K.State) :
    Traced (Call K.Spec K.MQSpec) Reconciled := do
  let (patched, patchErr) ← patchSyncedDeleting env obj K.deletingMessage
  match patchErr with
  | some e => return ⟨0, some e⟩
  | none =>
    let spec := K.toMQ patched.spec
    match (← .call (.delete spec) (admin.delete spec)).err with
    | some e => setSyncedError env 1 patched e none
    | none =>
      .call (.event false "Deleted" K.deletedMessage) ()
      let answer ← .call (.update (removeFinalizer patched K.finalizer)) env.update
      return ⟨0, answer.err.map (.wrapped "remove finalizer")⟩

def reconcileWorkloadDeletion (env : Env K.Spec K.MQSpec K.State) (obj : Workload K.Spec) :
    Traced (Call K.Spec K.MQSpec) Reconciled := do
  if !containsFinalizer obj K.finalizer then return ⟨0, none⟩
  if orphanDeletionRequested obj then orphanFinalizeWorkload env obj K.finalizer K.orphanedMessage
  else
    match ← resolveConnection env obj with
    | .error e => deletionAwaitingConnection env obj e
    | .ok conn =>
      match ← waitForConnectionReady env obj conn with
      | some result => return result
      | none =>
        match ← forConnection env conn with
        | .error e => deletionAwaitingConnection env obj e
        | .ok admin => handleDeletion K env obj admin

def reconcileWorkload (env : Env K.Spec K.MQSpec K.State) (obj : Workload K.Spec) :
    Traced (Call K.Spec K.MQSpec) Reconciled :=
  if workloadSuspended obj then reconcileWorkloadSuspended env obj
  else if obj.metadata.deletionTimestamp.isSome then reconcileWorkloadDeletion K env obj
  else reconcileLive K env obj

def reconcile (env : Env K.Spec K.MQSpec K.State) : Traced (Call K.Spec K.MQSpec) Reconciled :=
  match env.object with
  | .notFound _ => pure ⟨0, none⟩
  | .failed e => pure ⟨0, some (.wrapped ("get " ++ K.kindName) e)⟩
  | .found obj => reconcileWorkload K env obj

end Flow

end MKurator.Controller
