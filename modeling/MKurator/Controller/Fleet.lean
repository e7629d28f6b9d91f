import MKurator.Controller.Existence
import MKurator.Controller.Outcome
import MKurator.Controller.WatchFilter

/-! Many resources of one kind, the connections they name and the queue managers behind them, while the cluster and the
queue managers are healthy. In whatever order the resources are reconciled, each of them is settled after two reconciles
of its own, and a deleted one has left nothing behind after one. -/

namespace MKurator.Controller
open MKurator.Api MKurator.MqAdmin MKurator.Lib MKurator.Lib.Strings

section Fleets

variable (K : Kind)

/-- The queue managers behind the connections: what a Define or Set makes of an object, and which keys can be compared. -/
structure Site where
  managers : String → ManagerAddress
  stored : K.MQSpec → Option K.State → K.State
  localDriftKeys : List String
  keys : K.MQSpec → List String
  resolved : ∀ (admin : Admin K.MQSpec K.State) spec, admin.localDriftKeys = .ok localDriftKeys →
    K.driftKeys admin spec = .ok (keys spec)

structure Fleet (ι : Type) where
  crs : ι → Option (Workload K.Spec)
  objects : ObjectAddress K → Option K.State

/-- `edit` and `change` are made by others: a resource is created, edited or removed, or an object is. -/
inductive FleetAct (ι : Type) where
  | reconcile (name : ι) (env : Env K.Spec K.MQSpec K.State)
  | edit (name : ι) (new : Option (Workload K.Spec))
  | change (target : ObjectAddress K) (contents : Option K.State)

variable {K} (site : Site K)

namespace Site

def address (obj : Workload K.Spec) : ObjectAddress K :=
  (site.managers (connectionRefName obj), K.ident (K.toMQ obj.spec))

def port (objects : ObjectAddress K → Option K.State) (manager : ManagerAddress) : Admin K.MQSpec K.State where
  get spec := (objects (manager, K.ident spec)).elim (none, some (.notFound K.kindName)) fun state => (some state, none)
  localDriftKeys := .ok site.localDriftKeys
  define _ := .ok
  delete _ := .ok

theorem observed_port (objects : ObjectAddress K → Option K.State) (manager : ManagerAddress) (spec : K.MQSpec) :
    K.observed (site.port objects manager) spec = objects (manager, K.ident spec) := by
  simp only [KindBase.observed, port]
  cases objects (manager, K.ident spec) <;> rfl

theorem getAnswered_port (objects : ObjectAddress K → Option K.State) (manager : ManagerAddress) (spec : K.MQSpec) :
    K.GetAnswered (site.port objects manager) spec := by
  intro e failure
  simp only [port] at failure
  cases there : objects (manager, K.ident spec) with
  | none =>
    rw [there] at failure
    cases failure
    rfl
  | some state =>
    rw [there] at failure
    cases failure

end Site

/-- The reconcile reads the resource as it is, reaches its queue manager, and all its writes are accepted. -/
structure Healthy (objects : ObjectAddress K → Option K.State) (env : Env K.Spec K.MQSpec K.State)
    (obj : Workload K.Spec) : Prop where
  read : env.object = .found obj
  reaches : Reaches K env obj (site.port objects (site.managers (connectionRefName obj)))
  reported : ∀ n, env.statusUpdate n = .ok
  updated : env.update = .ok

namespace Fleet

variable {ι : Type} (fleet : Fleet K ι)

def setObject (target : ObjectAddress K) (contents : Option K.State) : Fleet K ι :=
  { fleet with objects := Function.update fleet.objects target contents }

@[simp] theorem setObject_crs (target : ObjectAddress K) (contents : Option K.State) :
    (fleet.setObject target contents).crs = fleet.crs := rfl

@[simp] theorem setObject_self (target : ObjectAddress K) (contents : Option K.State) :
    (fleet.setObject target contents).objects target = contents :=
  Function.update_self ..

theorem setObject_of_ne {target other : ObjectAddress K} (contents : Option K.State) (apart : other ≠ target) :
    (fleet.setObject target contents).objects other = fleet.objects other :=
  Function.update_of_ne apart ..

variable [DecidableEq ι]

def setCr (name : ι) (new : Option (Workload K.Spec)) : Fleet K ι :=
  { fleet with crs := Function.update fleet.crs name new }

@[simp] theorem setCr_objects (name : ι) (new : Option (Workload K.Spec)) :
    (fleet.setCr name new).objects = fleet.objects := rfl

@[simp] theorem setCr_self (name : ι) (new : Option (Workload K.Spec)) : (fleet.setCr name new).crs name = new :=
  Function.update_self ..

theorem setCr_of_ne {name other : ι} (new : Option (Workload K.Spec)) (apart : other ≠ name) :
    (fleet.setCr name new).crs other = fleet.crs other :=
  Function.update_of_ne apart ..

def apply (name : ι) (manager : ManagerAddress) (fleet : Fleet K ι) : Call K.Spec K.MQSpec → Fleet K ι
  | .statusUpdate obj =>
    fleet.setCr name ((fleet.crs name).map fun stored => { stored with status := obj.status })
  | .update obj =>
    fleet.setCr name ((fleet.crs name).bind fun stored =>
      retained { stored with metadata := { stored.metadata with finalizers := obj.metadata.finalizers } })
  | .define spec =>
    fleet.setObject (manager, K.ident spec) (some (site.stored spec (fleet.objects (manager, K.ident spec))))
  | .delete spec => fleet.setObject (manager, K.ident spec) none
  | _ => fleet

def Valid (fleet : Fleet K ι) : FleetAct K ι → Prop
  | .reconcile name env => ∃ obj, fleet.crs name = some obj ∧ Healthy site fleet.objects env obj
  | .edit .. | .change .. => True

def next [UnicodeTables] (fleet : Fleet K ι) : FleetAct K ι → Fleet K ι
  | .reconcile name env =>
    match fleet.crs name with
    | none => fleet
    | some obj =>
      (writes (Controller.reconcile K env)).foldl (apply site name (site.managers (connectionRefName obj))) fleet
  | .edit name new => fleet.setCr name new
  | .change target contents => fleet.setObject target contents

end Fleet

def fleetSystem [UnicodeTables] {ι : Type} [DecidableEq ι] : System (Fleet K ι) (FleetAct K ι) where
  valid := Fleet.Valid site
  next := Fleet.next site

end Fleets

section Frame

variable {K : Kind} {site : Site K} {ι : Type} [DecidableEq ι] {fleet : Fleet K ι} {name : ι} {obj : Workload K.Spec}

structure Fleet.Touches (site : Site K) (name : ι) (obj : Workload K.Spec) (before after : Fleet K ι) : Prop where
  crs : ∀ other, other ≠ name → after.crs other = before.crs other
  objects : ∀ target, target ≠ site.address obj → after.objects target = before.objects target
  spec : ∀ kept, after.crs name = some kept → kept.spec = obj.spec

theorem Fleet.touches_apply {before : Fleet K ι} (so_far : Fleet.Touches site name obj before fleet)
    {call : Call K.Spec K.MQSpec} (own : ∀ spec, call = .define spec ∨ call = .delete spec → spec = K.toMQ obj.spec) :
    Fleet.Touches site name obj before (fleet.apply site name (site.managers (connectionRefName obj)) call) := by
  cases call with
  | statusUpdate new =>
    refine ⟨fun other apart => ?_, so_far.objects, fun kept present => ?_⟩
    · rw [apply, setCr_of_ne _ _ apart, so_far.crs other apart]
    · rw [apply, setCr_self] at present
      obtain ⟨stored, there, rfl⟩ := Option.map_eq_some_iff.mp present
      exact so_far.spec stored there
  | update new =>
    refine ⟨fun other apart => ?_, so_far.objects, fun kept present => ?_⟩
    · rw [apply, setCr_of_ne _ _ apart, so_far.crs other apart]
    · rw [apply, setCr_self] at present
      obtain ⟨stored, there, stays⟩ := Option.bind_eq_some_iff.mp present
      rw [retained_eq_some stays]
      exact so_far.spec stored there
  | define spec =>
    obtain rfl := own spec (.inl rfl)
    refine ⟨so_far.crs, fun target apart => ?_, so_far.spec⟩
    exact (setObject_of_ne _ _ apart).trans (so_far.objects target apart)
  | delete spec =>
    obtain rfl := own spec (.inr rfl)
    refine ⟨so_far.crs, fun target apart => ?_, so_far.spec⟩
    exact (setObject_of_ne _ _ apart).trans (so_far.objects target apart)
  | _ => exact so_far

theorem Fleet.touches_foldl {before : Fleet K ι} (calls : List (Call K.Spec K.MQSpec))
    (own : ∀ spec, .define spec ∈ calls ∨ .delete spec ∈ calls → spec = K.toMQ obj.spec)
    (so_far : Fleet.Touches site name obj before fleet) :
    Fleet.Touches site name obj before
      (calls.foldl (Fleet.apply site name (site.managers (connectionRefName obj))) fleet) := by
  induction calls generalizing fleet with
  | nil => exact so_far
  | cons call rest ih =>
    refine ih (fun spec member => own spec (member.imp (List.mem_cons_of_mem _) (List.mem_cons_of_mem _))) ?_
    refine Fleet.touches_apply so_far fun spec same => own spec ?_
    rcases same with rfl | rfl
    · exact .inl List.mem_cons_self
    · exact .inr List.mem_cons_self

variable [UnicodeTables] {env : Env K.Spec K.MQSpec K.State}

theorem Fleet.next_reconcile (stored : fleet.crs name = some obj) (healthy : Healthy site fleet.objects env obj) :
    fleet.next site (.reconcile name env) = (writes (reconcileWorkload K env obj)).foldl
      (Fleet.apply site name (site.managers (connectionRefName obj))) fleet := by
  rw [next, stored]
  simp only [reconcile_of_read healthy.read]

theorem Fleet.touches_reconcile (stored : fleet.crs name = some obj) (healthy : Healthy site fleet.objects env obj) :
    Fleet.Touches site name obj fleet (fleet.next site (.reconcile name env)) := by
  rw [Fleet.next_reconcile stored healthy]
  refine Fleet.touches_foldl _ ?_ ⟨fun _ _ => rfl, fun _ _ => rfl, fun kept present => ?_⟩
  · rintro spec (called | called)
    · exact (define_guard K env obj ((mem_writes rfl).mpr called)).1
    · exact (delete_guard K env obj ((mem_writes rfl).mpr called)).1
  · rw [Option.some.inj (stored.symm.trans present)]

end Frame

theorem exists_findCondition_setCondition (now : Nat) (type : String) (status : ConditionStatus) (reason message : String)
    (generation : Nat) (conditions : List Condition) :
    ∃ time, findCondition (setCondition now type status reason message generation conditions) type =
      some ⟨type, status, reason, message, generation, time⟩ := by
  induction conditions with
  | nil => exact ⟨now, by simp [setCondition, findCondition]⟩
  | cons c rest ih =>
    rw [setCondition]
    by_cases same : c.type = type
    · exact ⟨_, by rw [if_pos same, findCondition, List.find?_cons_of_pos (by simp)]⟩
    · rw [if_neg same, findCondition, List.find?_cons_of_neg (by simpa using same)]
      exact ih

theorem setCondition_of_findCondition (now : Nat) {type reason message : String} {status : ConditionStatus}
    {generation time : Nat} {conditions : List Condition}
    (found : findCondition conditions type = some ⟨type, status, reason, message, generation, time⟩) :
    setCondition now type status reason message generation conditions = conditions := by
  induction conditions with
  | nil => cases found
  | cons c rest ih =>
    rw [setCondition]
    rw [findCondition] at found
    by_cases same : c.type = type
    · rw [List.find?_cons_of_pos (by simpa using same)] at found
      obtain rfl := Option.some.inj found
      simp
    · rw [List.find?_cons_of_neg (by simpa using same)] at found
      rw [if_neg same, ih found]

section Willing

variable {K : Kind} (site : Site K)

/-- The resource asks the operator to keep its object in line, its spec can be rendered, and an object made from the spec
is in line with it. -/
structure Willing (obj : Workload K.Spec) : Prop where
  unsuspended : workloadSuspended obj = false
  live : obj.metadata.deletionTimestamp = none
  generation : 0 < obj.metadata.generation
  acting : isObserveOnly obj = false
  renders : Renders K obj
  settles : ∀ old, K.differs (site.keys (K.toMQ obj.spec)) (K.toMQ obj.spec) (site.stored (K.toMQ obj.spec) old) = false

def Permitted (objects : ObjectAddress K → Option K.State) (obj : Workload K.Spec) : Prop :=
  K.adoptionBlock (site.keys (K.toMQ obj.spec)) obj (K.toMQ obj.spec) (objects (site.address obj)) = none

def OutOfLine (objects : ObjectAddress K → Option K.State) (obj : Workload K.Spec) : Prop :=
  K.needsUpdate (site.keys (K.toMQ obj.spec)) (K.toMQ obj.spec) (objects (site.address obj)) = true

instance (objects : ObjectAddress K → Option K.State) (obj : Workload K.Spec) : Decidable (OutOfLine site objects obj) :=
  inferInstanceAs (Decidable (_ = true))

/-- The object is there and in line, and the status says so about this generation of the spec. -/
structure Settled (objects : ObjectAddress K → Option K.State) (obj : Workload K.Spec) : Prop where
  finalizer : K.finalizer ∈ obj.metadata.finalizers
  inLine : ¬OutOfLine site objects obj
  observedGeneration : obj.status.observedGeneration = obj.metadata.generation
  synced : ∃ time, findCondition obj.status.conditions conditionSynced =
    some ⟨conditionSynced, .conditionTrue, reasonAvailable, K.syncedMessage, obj.metadata.generation, time⟩
  message : obj.status.message = K.syncedMessage
  present : obj.status.mqObjectExists = some true
  rendered : K.format (K.toMQ obj.spec) = .ok obj.status.desiredMQSC

def syncedCopy (now : Nat) (text : String) (obj : Workload K.Spec) : Workload K.Spec :=
  applyPatch now { obj with status := { obj.status with desiredMQSC := text } } (availablePatch now K.syncedMessage)

variable {site} {objects : ObjectAddress K → Option K.State} {obj : Workload K.Spec} {env : Env K.Spec K.MQSpec K.State}

theorem ensure_willing (willing : Willing site obj) (permitted : Permitted site objects obj) :
    let admin := site.port objects (site.managers (connectionRefName obj))
    (K.ensure admin obj (K.toMQ obj.spec)).value = ⟨true, none, none⟩ ∧
      ∃ reads : List (Call K.Spec K.MQSpec), (∀ call ∈ reads, call.isMQRead = true) ∧
        (K.ensure admin obj (K.toMQ obj.spec)).calls =
          reads ++ if OutOfLine site objects obj then [.define (K.toMQ obj.spec)] else [] := by
  intro admin
  have seen : K.observed admin (K.toMQ obj.spec) = objects (site.address obj) := site.observed_port _ _ _
  have resolved : K.driftKeys admin (K.toMQ obj.spec) = .ok (site.keys (K.toMQ obj.spec)) := site.resolved _ _ rfl
  have ensured := K.ensure_cases admin obj (K.toMQ obj.spec)
  generalize (K.ensure admin obj (K.toMQ obj.spec)).calls = calls at ensured ⊢
  generalize (K.ensure admin obj (K.toMQ obj.spec)).value = result at ensured ⊢
  cases ensured with
  | getFailed e failure other =>
    rw [site.getAnswered_port _ _ _ e failure] at other
    cases other
  | keysFailed e reads readOnly answered unresolved => cases resolved.symm.trans unresolved
  | blocked keys block reads readOnly answered known refused asked =>
    obtain rfl := Except.ok.inj (resolved.symm.trans known)
    rw [seen] at refused
    cases permitted.symm.trans refused
  | drifted keys message reads readOnly answered known observing needed => cases willing.acting.symm.trans observing
  | inSync keys reads readOnly answered known unneeded allowed =>
    obtain rfl := Except.ok.inj (resolved.symm.trans known)
    rw [seen] at unneeded
    have inLine : ¬OutOfLine site objects obj := by simp [OutOfLine, unneeded]
    exact ⟨rfl, _, readOnly, by rw [if_neg inLine, List.append_nil]⟩
  | defineFailed keys e reads readOnly answered known acting needed allowed failure => cases failure
  | defined keys reads readOnly answered known acting needed allowed success =>
    obtain rfl := Except.ok.inj (resolved.symm.trans known)
    rw [seen] at needed
    exact ⟨rfl, reads, readOnly, by rw [if_pos (show OutOfLine site objects obj from needed)]⟩

theorem settled_syncedCopy (finalizer : K.finalizer ∈ obj.metadata.finalizers) {text : String}
    (formatted : K.format (K.toMQ obj.spec) = .ok text) {now : Nat} (inLine : ¬OutOfLine site objects obj) :
    Settled site objects (syncedCopy now text obj) := by
  have found := exists_findCondition_setCondition now conditionSynced .conditionTrue reasonAvailable
    K.syncedMessage obj.metadata.generation obj.status.conditions
  exact ⟨finalizer, inLine, rfl, found, rfl, rfl, formatted⟩

theorem permitted_of_adopted (adopted : workloadFirstAdoption obj = false) : Permitted site objects obj := by
  rw [Permitted, KindBase.adoptionBlock, adoptionBlockForExisting_eq_none_iff]
  exact .inl adopted

theorem Settled.adopted (settled : Settled site objects obj) (generation : 0 < obj.metadata.generation) :
    workloadFirstAdoption obj = false := by
  rw [workloadFirstAdoption, settled.observedGeneration]
  exact beq_eq_false_iff_ne.mpr (by omega)

theorem Settled.syncedCopy_eq (settled : Settled site objects obj) {text : String}
    (formatted : K.format (K.toMQ obj.spec) = .ok text) (now : Nat) :
    syncedCopy now text obj = { obj with status := { obj.status with lastSyncTime := some now } } := by
  obtain ⟨-, -, generation, ⟨time, found⟩, message, present, rendered⟩ := settled
  obtain rfl : text = obj.status.desiredMQSC := Except.ok.inj (formatted.symm.trans rendered)
  have kept := setCondition_of_findCondition now found
  rw [syncedCopy, applyPatch]
  simp only [availablePatch, kept, if_true, generation, message, present]
  rfl

variable [UnicodeTables]

theorem calls_reachPort (failed : MqError → Traced (Call K.Spec K.MQSpec) Reconciled)
    (next : Admin K.MQSpec K.State → Traced (Call K.Spec K.MQSpec) Reconciled) {admin : Admin K.MQSpec K.State}
    (reaches : Reaches K env obj admin) : ∃ lookups, (∀ call ∈ lookups, call.isConnectionLookup = true) ∧
      (reachPort env obj failed next).calls = lookups ++ (next admin).calls := by
  obtain ⟨conn, found, ready, port⟩ := reaches
  have resolved : resolveConnection env obj = .call (.getConnection obj.metadata.ns (connectionRefName obj)) (.ok conn) := by
    simp only [resolveConnection, found]
    rfl
  have waits : waitForConnectionReady env obj conn = pure none := by rw [waitForConnectionReady, if_pos ready]
  refine ⟨[.getConnection obj.metadata.ns (connectionRefName obj), .forConnection conn.metadata.name], ?_, ?_⟩
  · simp [Call.isConnectionLookup]
  · simp only [reachPort, resolved, Traced.calls_bind, Traced.value_call, Traced.calls_call, waits, forConnection, port,
      Traced.value_pure, Traced.calls_pure]
    rfl

theorem calls_reconcile_willing (healthy : Healthy site objects env obj) (willing : Willing site obj)
    (permitted : Permitted site objects obj) (finalizer : K.finalizer ∈ obj.metadata.finalizers) :
    ∃ text, ∃ reads : List (Call K.Spec K.MQSpec), K.format (K.toMQ obj.spec) = .ok text ∧
      (∀ call ∈ reads, call.isConnectionLookup = true ∨ call.isMQRead = true) ∧
      (reconcileWorkload K env obj).calls = reads ++
        (if OutOfLine site objects obj then [.define (K.toMQ obj.spec)] else []) ++
        (emitSyncedTransitionEvent (μ := K.MQSpec) obj .conditionTrue reasonAvailable K.syncedMessage).calls ++
        [.statusUpdate (syncedCopy env.now text obj)] ∧
      (reconcileWorkload K env obj).value = ⟨env.intervals.driftResyncAfter, none⟩ := by
  obtain ⟨supported, text, formatted⟩ := willing.renders
  have present : containsFinalizer obj K.finalizer = true := decide_eq_true finalizer
  have ensured := K.ensure_congr (site.port objects (site.managers (connectionRefName obj)))
    { obj with status := { obj.status with desiredMQSC := text } } obj (K.toMQ obj.spec) rfl rfl rfl
  obtain ⟨value, reads, readOnly, calls⟩ := ensure_willing willing permitted
  obtain ⟨lookups, lookupOnly, reached⟩ := calls_reachPort (fun e => setSyncedError env 0 obj e none)
    (fun admin => if containsFinalizer obj K.finalizer then ensureAndReport K env obj admin
      else do
        let answer ← .call (.update (addFinalizer obj K.finalizer)) env.update
        return ⟨0, answer.err.map (.wrapped "add finalizer")⟩) healthy.reaches
  refine ⟨text, lookups ++ reads, formatted, ?_, ?_, ?_⟩
  · intro call member
    exact (List.mem_append.mp member).imp (lookupOnly call) (readOnly call)
  · rw [reconcileWorkload_live willing.unsuspended willing.live, reached, if_pos present, ensureAndReport, supported]
    simp only [formatted, ensured, Traced.calls_bind, calls, value, reportEnsure, patchSyncedAvailable,
      patchSyncedStatus, healthy.reported]
    simp [availablePatch, syncedCopy, emitSyncedTransitionEvent, WriteAnswer.err]
    rfl
  · rw [reconcileWorkload_live willing.unsuspended willing.live, value_reachPort _ _ healthy.reaches, if_pos present,
      ensureAndReport, supported]
    simp only [formatted, ensured, Traced.value_bind, value, value_reportEnsure, healthy.reported, WriteAnswer.err]

theorem writes_reconcile_willing (healthy : Healthy site objects env obj) (willing : Willing site obj)
    (permitted : Permitted site objects obj) (finalizer : K.finalizer ∈ obj.metadata.finalizers) :
    ∃ text, K.format (K.toMQ obj.spec) = .ok text ∧
      writes (reconcileWorkload K env obj) =
        (if OutOfLine site objects obj then [.define (K.toMQ obj.spec)] else []) ++
        [.statusUpdate (syncedCopy env.now text obj)] := by
  obtain ⟨text, reads, formatted, readOnly, calls, -⟩ := calls_reconcile_willing healthy willing permitted finalizer
  have silent : reads.filter Call.isWrite = [] := by
    rw [List.filter_eq_nil_iff]
    intro call member
    have read := readOnly call member
    cases call <;> simp [Call.isConnectionLookup, Call.isMQRead] at read <;> simp [Call.isWrite]
  have unwritten : (emitSyncedTransitionEvent (μ := K.MQSpec) obj .conditionTrue reasonAvailable
      K.syncedMessage).calls.filter Call.isWrite = [] := writes_emitSyncedTransitionEvent ..
  refine ⟨text, formatted, ?_⟩
  rw [writes, calls, List.filter_append, List.filter_append, List.filter_append, silent, unwritten]
  split <;> rfl

theorem writes_reconcile_unfinalized (healthy : Healthy site objects env obj) (willing : Willing site obj)
    (absent : K.finalizer ∉ obj.metadata.finalizers) :
    writes (reconcileWorkload K env obj) = [.update (addFinalizer obj K.finalizer)] := by
  have missing : ¬containsFinalizer obj K.finalizer = true := by simpa [containsFinalizer] using absent
  rw [reconcileWorkload_live willing.unsuspended willing.live, writes_reachPort healthy.reaches, if_neg missing]
  rfl

end Willing

section Progressing

variable {K : Kind} {site : Site K} {ι : Type} {name : ι} {first obj : Workload K.Spec} {fleet : Fleet K ι}

theorem address_of_spec (same : obj.spec = first.spec) :
    site.address obj = site.address first := by
  rw [Site.address, Site.address, connectionRefName, connectionRefName, same]

/-- No other resource names the object. -/
def Alone (site : Site K) (name : ι) (first : Workload K.Spec) (fleet : Fleet K ι) : Prop :=
  ∀ other obj, other ≠ name → fleet.crs other = some obj → site.address obj ≠ site.address first

/-- Of the metadata, a reconcile changes only the finalizers. -/
structure SameRequest (first obj : Workload K.Spec) : Prop where
  spec : obj.spec = first.spec
  metadata : obj.metadata = { first.metadata with finalizers := obj.metadata.finalizers }

theorem SameRequest.willing (same : SameRequest first obj) (willing : Willing site first) : Willing site obj := by
  obtain ⟨spec, metadata⟩ := same
  refine ⟨?_, ?_, ?_, ?_, ?_, ?_⟩
  · rw [workloadSuspended, spec]
    exact willing.unsuspended
  · rw [metadata]
    exact willing.live
  · rw [metadata]
    exact willing.generation
  · rw [isObserveOnly, metadata]
    exact willing.acting
  · rw [Renders, spec]
    exact willing.renders
  · rw [spec]
    exact willing.settles

structure Progress (site : Site K) (name : ι) (first : Workload K.Spec) (n : Nat) (fleet : Fleet K ι) : Prop where
  alone : Alone site name first fleet
  own : ∃ obj, fleet.crs name = some obj ∧ SameRequest first obj ∧ Permitted site fleet.objects obj ∧
    (0 < n → K.finalizer ∈ obj.metadata.finalizers) ∧ (1 < n → Settled site fleet.objects obj)

theorem Progress.of_untouched {n : Nat} (progress : Progress site name first n fleet) {after : Fleet K ι}
    (alone : Alone site name first after) (crs : after.crs name = fleet.crs name)
    (object : after.objects (site.address first) = fleet.objects (site.address first)) :
    Progress site name first n after := by
  obtain ⟨obj, stored, same, permitted, finalizer, settled⟩ := progress.own
  rw [← address_of_spec same.spec] at object
  refine ⟨alone, obj, crs.trans stored, same, ?_, finalizer, fun far => ?_⟩
  · rw [Permitted, object]
    exact permitted
  · obtain ⟨finalizer, inLine, generation, synced, message, present, rendered⟩ := settled far
    refine ⟨finalizer, ?_, generation, synced, message, present, rendered⟩
    rw [OutOfLine, object]
    exact inLine

theorem Progress.mono {n m : Nat} (progress : Progress site name first n fleet) (less : m ≤ n) :
    Progress site name first m fleet := by
  obtain ⟨alone, obj, stored, same, permitted, finalizer, settled⟩ := progress
  exact ⟨alone, obj, stored, same, permitted, fun far => finalizer (by omega), fun far => settled (by omega)⟩

end Progressing

section Runs

variable {K : Kind} {site : Site K} {ι : Type} [DecidableEq ι] {name : ι} {first : Workload K.Spec} {fleet : Fleet K ι}

/-- Others leave the resource and its object to the operator. -/
def Leaves (site : Site K) (name : ι) (first : Workload K.Spec) : FleetAct K ι → Prop
  | .reconcile .. => True
  | .edit other new => other ≠ name ∧ ∀ obj, new = some obj → site.address obj ≠ site.address first
  | .change target _ => target ≠ site.address first

def isReconcileOf (name : ι) : FleetAct K ι → Bool
  | .reconcile other _ => other = name
  | _ => false

theorem Fleet.Touches.alone {after : Fleet K ι} {toucher : ι} {obj : Workload K.Spec}
    (touches : Fleet.Touches site toucher obj fleet after) (stored : fleet.crs toucher = some obj)
    (alone : Alone site name first fleet) : Alone site name first after := by
  intro other kept apart present
  by_cases own : other = toucher
  · subst own
    rw [address_of_spec (touches.spec kept present)]
    exact alone other obj apart stored
  · exact alone other kept apart ((touches.crs other own).symm.trans present)

variable [UnicodeTables]

theorem untouched_step (alone : Alone site name first fleet) {act : FleetAct K ι} (valid : fleet.Valid site act)
    (leaves : Leaves site name first act) (other : isReconcileOf name act = false) :
    Alone site name first (fleet.next site act) ∧ (fleet.next site act).crs name = fleet.crs name ∧
      (fleet.next site act).objects (site.address first) = fleet.objects (site.address first) := by
  cases act with
  | reconcile toucher env =>
    obtain ⟨obj, stored, healthy⟩ := valid
    have apart : toucher ≠ name := of_decide_eq_false other
    have touches := Fleet.touches_reconcile stored healthy
    exact ⟨touches.alone stored alone, touches.crs name apart.symm,
      touches.objects _ (alone toucher obj apart stored).symm⟩
  | edit edited new =>
    obtain ⟨apart, elsewhere⟩ := leaves
    refine ⟨fun other obj away present => ?_, Fleet.setCr_of_ne _ _ apart.symm, rfl⟩
    by_cases own : other = edited
    · subst own
      exact elsewhere obj ((Fleet.setCr_self ..).symm.trans present)
    · exact alone other obj away ((Fleet.setCr_of_ne _ _ own).symm.trans present)
  | change target contents => exact ⟨alone, rfl, Fleet.setObject_of_ne _ _ (Ne.symm leaves)⟩

section Settling

variable {obj : Workload K.Spec} {env : Env K.Spec K.MQSpec K.State}

theorem Fleet.next_unfinalized (stored : fleet.crs name = some obj) (healthy : Healthy site fleet.objects env obj)
    (willing : Willing site obj) (absent : K.finalizer ∉ obj.metadata.finalizers) :
    fleet.next site (.reconcile name env) = fleet.setCr name (some (addFinalizer obj K.finalizer)) := by
  have missing : containsFinalizer obj K.finalizer = false := decide_eq_false absent
  rw [Fleet.next_reconcile stored healthy, writes_reconcile_unfinalized healthy willing absent, List.foldl_cons,
    List.foldl_nil, Fleet.apply, stored, addFinalizer, missing]
  simp [retained, willing.live]

theorem Fleet.next_settles (stored : fleet.crs name = some obj) (healthy : Healthy site fleet.objects env obj)
    (willing : Willing site obj) (permitted : Permitted site fleet.objects obj)
    (finalizer : K.finalizer ∈ obj.metadata.finalizers) :
    ∃ kept, (fleet.next site (.reconcile name env)).crs name = some kept ∧ kept.spec = obj.spec ∧
      kept.metadata = obj.metadata ∧ Settled site (fleet.next site (.reconcile name env)).objects kept := by
  obtain ⟨text, formatted, written⟩ := writes_reconcile_willing healthy willing permitted finalizer
  rw [Fleet.next_reconcile stored healthy, written]
  refine ⟨syncedCopy env.now text obj, ?_, rfl, rfl, settled_syncedCopy finalizer formatted ?_⟩
  · split <;> simp [Fleet.apply, stored] <;> rfl
  · split
    next => 
      have made : site.address obj = (site.managers (connectionRefName obj), K.ident (K.toMQ obj.spec)) := rfl
      simp [Fleet.apply, OutOfLine, made, KindBase.needsUpdate, willing.settles]
    next inLine => exact inLine

theorem Progress.reconciled {n : Nat} (progress : Progress site name first n fleet) (willing : Willing site first)
    (valid : fleet.Valid site (.reconcile name env)) :
    Progress site name first (n + 1) (fleet.next site (.reconcile name env)) := by
  obtain ⟨read, present, healthy⟩ := valid
  obtain ⟨obj, stored, same, permitted, finalizer, settled⟩ := progress.own
  obtain rfl := Option.some.inj (stored.symm.trans present)
  have alone := (Fleet.touches_reconcile stored healthy).alone stored progress.alone
  have wants := same.willing willing
  refine ⟨alone, ?_⟩
  by_cases there : K.finalizer ∈ obj.metadata.finalizers
  · obtain ⟨kept, stays, spec, metadata, settled⟩ := Fleet.next_settles stored healthy wants permitted there
    have adopted := settled.adopted (metadata ▸ wants.generation)
    exact ⟨kept, stays, ⟨spec.trans same.spec, by rw [metadata]; exact same.metadata⟩, permitted_of_adopted adopted,
      fun _ => settled.finalizer, fun _ => settled⟩
  · have start : n = 0 := by
      by_contra later
      exact there (finalizer (Nat.pos_of_ne_zero later))
    have added : addFinalizer obj K.finalizer =
        { obj with metadata := { obj.metadata with finalizers := obj.metadata.finalizers ++ [K.finalizer] } } := by
      rw [addFinalizer, if_neg (by simpa [containsFinalizer] using there)]
    rw [Fleet.next_unfinalized stored healthy wants there, added]
    refine ⟨_, Fleet.setCr_self .., ⟨same.spec, ?_⟩, permitted, fun _ => ?_, fun far => ?_⟩
    · rw [same.metadata]
    · simp
    · omega

theorem progress_of_follows {actions : List (FleetAct K ι)} (willing : Willing site first)
    (stored : fleet.crs name = some first) (permitted : Permitted site fleet.objects first)
    (alone : Alone site name first fleet)
    (follows : (fleetSystem site).Follows (fun _ => Leaves site name first) fleet actions) :
    Progress site name first (actions.countP (isReconcileOf name)) (actions.foldl (Fleet.next site) fleet) := by
  have initially : Progress site name first 0 fleet :=
    ⟨alone, first, stored, ⟨rfl, rfl⟩, permitted, fun far => absurd far (by omega), fun far => absurd far (by omega)⟩
  have stepped : ∀ n (state : Fleet K ι) act, isReconcileOf name act = true → Progress site name first n state →
      state.Valid site act → Progress site name first (n + 1) (state.next site act) := by
    intro n state act own progress valid
    cases act with
    | reconcile other env =>
      obtain rfl : other = name := of_decide_eq_true own
      exact progress.reconciled willing valid
    | edit other new => cases own
    | change target contents => cases own
  have run := System.Follows.level (Progress site name first) (isReconcileOf name) ?_ ?_ follows initially
  · rwa [Nat.zero_add] at run
  · intro n state act progress valid leaves
    cases own : isReconcileOf name act with
    | true => exact (stepped n state act own progress valid).mono (Nat.le_succ n)
    | false =>
      obtain ⟨apart, crs, object⟩ := untouched_step progress.alone valid leaves own
      exact progress.of_untouched apart crs object
  · intro n state act own progress valid _
    exact stepped n state act own progress valid

/-- Two reconciles of its own settle a resource, whatever is reconciled, edited or changed elsewhere before, between and
after them. -/
theorem settled_after_two_reconciles {actions : List (FleetAct K ι)} (willing : Willing site first)
    (stored : fleet.crs name = some first) (permitted : Permitted site fleet.objects first)
    (alone : Alone site name first fleet)
    (follows : (fleetSystem site).Follows (fun _ => Leaves site name first) fleet actions)
    (twice : 2 ≤ actions.countP (isReconcileOf name)) :
    ∃ obj, (actions.foldl (Fleet.next site) fleet).crs name = some obj ∧ SameRequest first obj ∧
      Settled site (actions.foldl (Fleet.next site) fleet).objects obj := by
  obtain ⟨obj, present, same, -, -, settled⟩ := (progress_of_follows willing stored permitted alone follows).own
  exact ⟨obj, present, same, settled (by omega)⟩

/-- From then on a reconcile of the resource writes nothing to the queue manager and records no event: it moves the time of
the last sync, and comes back after the drift interval. -/
theorem quiet_after_two_reconciles {actions : List (FleetAct K ι)} (willing : Willing site first)
    (stored : fleet.crs name = some first) (permitted : Permitted site fleet.objects first)
    (alone : Alone site name first fleet)
    (follows : (fleetSystem site).Follows (fun _ => Leaves site name first) fleet actions)
    (twice : 2 ≤ actions.countP (isReconcileOf name))
    (valid : (actions.foldl (Fleet.next site) fleet).Valid site (.reconcile name env)) :
    let last := actions.foldl (Fleet.next site) fleet
    (∀ call ∈ (reconcile K env).calls, call.isMQWrite = false ∧ ∀ warning reason text, call ≠ .event warning reason text) ∧
      (reconcile K env).value = ⟨env.intervals.driftResyncAfter, none⟩ ∧
      ∃ obj, last.crs name = some obj ∧ last.next site (.reconcile name env) =
        last.setCr name (some { obj with status := { obj.status with lastSyncTime := some env.now } }) := by
  intro last
  obtain ⟨obj, present, same, permitted, -, settles⟩ := (progress_of_follows willing stored permitted alone follows).own
  have settled := settles (by omega)
  obtain ⟨read, there, healthy⟩ := valid
  obtain rfl := Option.some.inj (present.symm.trans there)
  have wants := same.willing willing
  obtain ⟨_, reads, -, readOnly, calls, value⟩ := calls_reconcile_willing healthy wants permitted settled.finalizer
  obtain ⟨text, formatted, written⟩ := writes_reconcile_willing healthy wants permitted settled.finalizer
  have unchanged : conditionChanged obj.status.conditions conditionSynced .conditionTrue reasonAvailable = false := by
    obtain ⟨time, found⟩ := settled.synced
    simp [conditionChanged, found]
  rw [reconcile_of_read healthy.read]
  refine ⟨?_, value, obj, present, ?_⟩
  · rw [calls, if_neg settled.inLine, emitSyncedTransitionEvent, unchanged]
    intro call member
    simp only [List.append_nil, Bool.false_eq_true, if_false, Traced.calls_pure, List.mem_append,
      List.mem_singleton] at member
    rcases member with read | rfl
    · have kind := readOnly call read
      cases call <;> simp [Call.isConnectionLookup, Call.isMQRead] at kind <;> simp [Call.isMQWrite]
    · simp [Call.isMQWrite]
  · rw [Fleet.next_reconcile present healthy, written, if_neg settled.inLine, settled.syncedCopy_eq formatted]
    simp only [List.nil_append, List.foldl_cons, List.foldl_nil, Fleet.apply, present, Option.map_some]
    rfl

end Settling

section Departing

variable {obj : Workload K.Spec} {env : Env K.Spec K.MQSpec K.State}

/-- The resource is being deleted, its object is to go with it, and nobody else's finalizer holds it. -/
structure Departing (obj : Workload K.Spec) : Prop where
  unsuspended : workloadSuspended obj = false
  deleting : obj.metadata.deletionTimestamp.isSome = true
  unorphaned : orphanDeletionRequested obj = false
  finalizer : K.finalizer ∈ obj.metadata.finalizers
  only : ∀ other ∈ obj.metadata.finalizers, other = K.finalizer

theorem writes_reconcile_departing {objects : ObjectAddress K → Option K.State} (healthy : Healthy site objects env obj)
    (departing : Departing obj) :
    ∃ patched : Workload K.Spec, patched.metadata = obj.metadata ∧ writes (reconcileWorkload K env obj) =
      [.statusUpdate patched, .delete (K.toMQ obj.spec), .update (removeFinalizer patched K.finalizer)] := by
  rw [reconcileWorkload_deleting departing.unsuspended departing.deleting departing.finalizer departing.unorphaned,
    writes_reachPort healthy.reaches, handleDeletion, patchSyncedDeleting]
  simp only [writes_bind, writes_patchSyncedStatus, value_patchSyncedStatus, healthy.reported, WriteAnswer.err,
    Traced.value_call, Site.port]
  exact ⟨applyPatch env.now obj (reportPatch reasonDeleting K.deletingMessage none true), rfl, rfl⟩

theorem Fleet.next_departs (stored : fleet.crs name = some obj) (healthy : Healthy site fleet.objects env obj)
    (departing : Departing obj) : (fleet.next site (.reconcile name env)).crs name = none ∧
      (fleet.next site (.reconcile name env)).objects (site.address obj) = none := by
  obtain ⟨patched, metadata, written⟩ := writes_reconcile_departing healthy departing
  have emptied : obj.metadata.finalizers.filter (· ≠ K.finalizer) = [] := by
    rw [List.filter_eq_nil_iff]
    intro other member
    simpa using departing.only other member
  rw [Fleet.next_reconcile stored healthy, written]
  simp only [List.foldl_cons, List.foldl_nil, Fleet.apply, removeFinalizer, metadata, emptied, Fleet.setCr_self, stored,
    Fleet.setObject_crs, Fleet.setCr_objects, Option.map_some, Option.bind_some, retained, departing.deleting]
  exact ⟨rfl, Fleet.setObject_self ..⟩

/-- One reconcile of a deleted resource is enough, whatever else happens: the resource and its object are gone for good. -/
theorem deleted_leaves_nothing {actions : List (FleetAct K ι)} (departing : Departing first)
    (stored : fleet.crs name = some first) (alone : Alone site name first fleet)
    (follows : (fleetSystem site).Follows (fun _ => Leaves site name first) fleet actions)
    (once : 1 ≤ actions.countP (isReconcileOf name)) :
    (actions.foldl (Fleet.next site) fleet).crs name = none ∧
      (actions.foldl (Fleet.next site) fleet).objects (site.address first) = none := by
  let gone (state : Fleet K ι) : Prop := state.crs name = none ∧ state.objects (site.address first) = none
  let level (n : Nat) (state : Fleet K ι) : Prop :=
    Alone site name first state ∧ ((n = 0 ∧ state.crs name = some first) ∨ gone state)
  have stepped : ∀ n (state : Fleet K ι) act, isReconcileOf name act = true → level n state → state.Valid site act →
      ∀ m, level m (state.next site act) := by
    intro n state act own reached valid m
    obtain ⟨alone, before⟩ := reached
    cases act with
    | reconcile other env =>
      obtain rfl : other = name := of_decide_eq_true own
      obtain ⟨obj, present, healthy⟩ := valid
      rcases before with ⟨-, same⟩ | ⟨away, -⟩
      · obtain rfl := Option.some.inj (same.symm.trans present)
        exact ⟨(Fleet.touches_reconcile present healthy).alone present alone,
          .inr (Fleet.next_departs present healthy departing)⟩
      · cases away.symm.trans present
    | edit other new => cases own
    | change target contents => cases own
  have run := System.Follows.level level (isReconcileOf name) ?_ ?_ follows ⟨alone, .inl ⟨rfl, stored⟩⟩
  · rcases run.2 with ⟨never, -⟩ | gone
    · omega
    · exact gone
  · intro n state act reached valid leaves
    cases own : isReconcileOf name act with
    | true => exact stepped n state act own reached valid n
    | false =>
      obtain ⟨alone, before⟩ := reached
      obtain ⟨apart, crs, object⟩ := untouched_step alone valid leaves own
      refine ⟨apart, before.imp (fun here => ⟨here.1, crs.trans here.2⟩) fun gone => ?_⟩
      exact ⟨crs.trans gone.1, object.trans gone.2⟩
  · intro n state act own reached valid _
    exact stepped n state act own reached valid (n + 1)

end Departing

end Runs

section Visits

variable {K : Kind} (site : Site K) {ι : Type}

def calmFor (objects : ObjectAddress K → Option K.State) (obj : Workload K.Spec) : Env K.Spec K.MQSpec K.State :=
  readyCluster K (.found obj) (site.port objects (site.managers (connectionRefName obj)))

theorem healthy_calmFor (objects : ObjectAddress K → Option K.State) (obj : Workload K.Spec) :
    Healthy site objects (calmFor site objects obj) obj :=
  ⟨rfl, ⟨readyConnection _, rfl, rfl, rfl⟩, fun _ => rfl, rfl⟩

def firstVisits (fleet : Fleet K ι) (name : ι) (obj : Workload K.Spec) : List (FleetAct K ι) :=
  [.reconcile name (calmFor site fleet.objects obj),
    .reconcile name (calmFor site fleet.objects (addFinalizer obj K.finalizer))]

variable {site} [UnicodeTables]

theorem follows_firstVisits [DecidableEq ι] {fleet : Fleet K ι} {name : ι} {obj : Workload K.Spec}
    (willing : Willing site obj) (stored : fleet.crs name = some obj)
    (absent : K.finalizer ∉ obj.metadata.finalizers) :
    (fleetSystem site).Follows (fun _ => Leaves site name obj) fleet (firstVisits site fleet name obj) := by
  have first := healthy_calmFor site fleet.objects obj
  have finalized := Fleet.next_unfinalized stored first willing absent
  have second : (fleet.next site (.reconcile name (calmFor site fleet.objects obj))).Valid site
      (.reconcile name (calmFor site fleet.objects (addFinalizer obj K.finalizer))) := by
    rw [finalized]
    exact ⟨_, Fleet.setCr_self .., healthy_calmFor ..⟩
  exact ⟨⟨_, stored, first⟩, trivial, second, trivial, trivial⟩

end Visits

section Cases

attribute [local instance] asciiTables

def plainSite : Site queueReconciler where
  managers _ := calmManager
  stored spec _ := { name := spec.name, attributes := spec.attributes }
  localDriftKeys := ["descr"]
  keys spec := if normalizeQueueType spec.type ≠ .localQueue then MqRest.queueDisplayParameters spec.type else ["descr"]
  resolved admin spec answers := by
    simp only [queueReconciler, queueBase, resolveQueueDriftCheckKeys]
    split
    · rfl
    · exact answers

def orderedQueue (deletionTimestamp : Option Nat) (finalizers : List String) : Workload Api.QueueSpec :=
  { ordersQueue none with
    metadata := { (ordersQueue none).metadata with deletionTimestamp, finalizers }
    spec := { (ordersQueue none).spec with description := "in" } }

def ordersFleet (obj : Workload Api.QueueSpec) : Fleet queueReconciler String where
  crs name := if name = "orders" then some obj else none
  objects _ := some { name := "ORDERS", attributes := AList.insert "descr" "out" ∅ }

theorem stored_ordersFleet (obj : Workload Api.QueueSpec) : (ordersFleet obj).crs "orders" = some obj := rfl

theorem alone_ordersFleet (obj : Workload Api.QueueSpec) : Alone plainSite "orders" obj (ordersFleet obj) := by
  intro other found apart present
  simp [ordersFleet, apart] at present

theorem differs_plainSite (keys : List String) (spec : MqAdmin.QueueSpec) (old : Option QueueState) :
    queueReconciler.differs keys spec (plainSite.stored spec old) =
      attributesNeedUpdate spec.attributes spec.attributes keys := rfl

theorem willing_orderedQueue : Willing plainSite (orderedQueue none []) where
  unsuspended := rfl
  live := rfl
  generation := by decide
  acting := by decide
  renders := ⟨rfl, _, rfl⟩
  settles old := (differs_plainSite _ _ old).trans (by decide)

theorem permitted_orderedQueue :
    Permitted plainSite (ordersFleet (orderedQueue none [])).objects (orderedQueue none []) :=
  (adoptionBlockForExisting_eq_none_iff ..).mpr (.inr (.inr (.inl rfl)))

def ordersTwice : List (FleetAct queueReconciler String) :=
  firstVisits plainSite (ordersFleet (orderedQueue none [])) "orders" (orderedQueue none [])

theorem follows_ordersTwice : (fleetSystem plainSite).Follows (fun _ => Leaves plainSite "orders" (orderedQueue none []))
    (ordersFleet (orderedQueue none [])) ordersTwice :=
  follows_firstVisits willing_orderedQueue (stored_ordersFleet _) (by decide)

theorem settled_after_two_reconciles_orders :
    ∃ obj, (ordersTwice.foldl (Fleet.next plainSite) (ordersFleet (orderedQueue none []))).crs "orders" = some obj ∧
      SameRequest (orderedQueue none []) obj ∧
      Settled plainSite (ordersTwice.foldl (Fleet.next plainSite) (ordersFleet (orderedQueue none []))).objects obj :=
  settled_after_two_reconciles willing_orderedQueue (stored_ordersFleet _) permitted_orderedQueue (alone_ordersFleet _)
    follows_ordersTwice (by decide)

theorem quiet_after_two_reconciles_orders :
    ∃ env, (reconcile queueReconciler env).value = ⟨300, none⟩ ∧
      ∀ call ∈ (reconcile queueReconciler env).calls, call.isMQWrite = false := by
  obtain ⟨obj, stored, -⟩ := (progress_of_follows willing_orderedQueue (stored_ordersFleet _) permitted_orderedQueue
    (alone_ordersFleet _) follows_ordersTwice).own
  obtain ⟨silent, value, -⟩ := quiet_after_two_reconciles willing_orderedQueue (stored_ordersFleet _)
    permitted_orderedQueue (alone_ordersFleet _) follows_ordersTwice (by decide)
    ⟨obj, stored, healthy_calmFor plainSite _ obj⟩
  exact ⟨_, value, fun call member => (silent call member).1⟩

theorem deleted_leaves_nothing_orders :
    let deleted := orderedQueue (some 5) [queueFinalizer]
    let actions : List (FleetAct queueReconciler String) :=
      [.reconcile "orders" (calmFor plainSite (ordersFleet deleted).objects deleted)]
    (actions.foldl (Fleet.next plainSite) (ordersFleet deleted)).crs "orders" = none ∧
      (actions.foldl (Fleet.next plainSite) (ordersFleet deleted)).objects (plainSite.address deleted) = none :=
  deleted_leaves_nothing ⟨rfl, rfl, by decide, by decide, by decide⟩ (stored_ordersFleet _)
    (alone_ordersFleet _) ⟨⟨_, rfl, healthy_calmFor ..⟩, trivial, trivial⟩ (by decide)

end Cases

end MKurator.Controller
