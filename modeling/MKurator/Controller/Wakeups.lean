import MKurator.Controller.FanOut
import MKurator.Controller.Outcome
import MKurator.Controller.Requeue

/-! The work queue of a workload controller, for the key of one resource: what puts it on the queue, and what a reconcile
that takes it off leaves behind. -/

namespace MKurator.Controller
open MKurator.Api MKurator.MqAdmin MKurator.Lib MKurator.Lib.Strings

/-- Whether a change of the resource passes the filter of its controller's watch. Creations and deletions always do. -/
def watchPasses {σ : Type} : Option (Workload σ) → Option (Workload σ) → Bool
  | none, none => false
  | some old, some new => workloadReconcilePredicates old new
  | none, some _ | some _, none => true

section Queue

variable (K : Kind)

structure Queued where
  world : World K
  connections : String → Option QueueManagerConnection
  /-- A worker will take the key. -/
  queued : Bool
  /-- The key comes back to the queue after a delay, asked for by a result or imposed after an error. -/
  delayed : Bool
  /-- The reconcile that last took the key, if it could read the resource. -/
  last : Option (ReconcileRecord K)

/-- `connection` carries the requests that the watch on connections makes of the change, should it pass. -/
inductive QueueAct where
  | reconcile (env : Env K.Spec K.MQSpec K.State) (met : ObjectAddress K → Option Provenance)
  | delayOver
  | edit (new : Workload K.Spec)
  | delete (time : Nat)
  | changeMQ (mq : ObjectAddress K → Option Provenance)
  | connection (name : String) (new : Option QueueManagerConnection) (requests : List Request)

variable {K}

def Reconciled.comesBack (result : Reconciled) : Bool := decide (0 < result.requeueAfter) || result.err.isSome

theorem silent_of_not_comesBack {result : Reconciled} (ended : result.comesBack = false) : result = ⟨0, none⟩ := by
  rcases result with ⟨requeueAfter, err⟩
  simp only [Reconciled.comesBack, Bool.or_eq_false_iff, decide_eq_false_iff_not, Nat.not_lt, Nat.le_zero,
    Option.isSome_eq_false_iff, Option.isNone_iff_eq_none] at ended
  rw [ended.1, ended.2]

namespace Queued

variable [UnicodeTables] (q : Queued K)

def watched (act : Act K) : Queued K :=
  { q with world := q.world.next act, queued := q.queued || watchPasses q.world.cr (q.world.next act).cr }

def named (requests : List Request) : Bool :=
  q.world.cr.any fun obj => decide (⟨obj.metadata.ns, obj.metadata.name⟩ ∈ requests)

def record (env : Env K.Spec K.MQSpec K.State) : Option (ReconcileRecord K) :=
  match env.object with
  | .found obj => some ⟨obj, env, q.world.address obj⟩
  | .notFound _ | .failed _ => none

def next : QueueAct K → Queued K
  | .reconcile env met =>
    -- the worker takes the key off before it reconciles
    { ({ q with queued := false }.watched (.reconcile env met)) with
      delayed := q.delayed || (Controller.reconcile K env).value.comesBack
      last := q.record env }
  | .delayOver => { q with queued := true, delayed := false }
  | .edit new => q.watched (.edit new)
  | .delete time => q.watched (.delete time)
  | .changeMQ mq => q.watched (.changeMQ mq)
  | .connection name new requests =>
    let moved := new.elim q.world fun conn => q.world.next (.changeConnection name (managerAddress conn))
    { q with
      world := moved
      connections := Function.update q.connections name new
      queued := q.queued || (connectionWatchPredicates (q.connections name) new && q.named requests) }

/-- A reconcile needs the key on the queue, and it reads the resource and the connections as they are stored, if it can
read them. -/
def Valid : QueueAct K → Prop
  | .reconcile env met =>
    q.queued = true ∧ q.world.Valid (.reconcile env met) ∧ (∀ e, env.object = .notFound e → q.world.cr = none) ∧
      (∀ name conn, env.connection name = .found conn → q.connections name = some conn) ∧
      (∀ name e, env.connection name = .notFound e → q.connections name = none)
  | .delayOver => q.delayed = true
  | .edit new => q.world.Valid (.edit new)
  | .delete time => q.world.Valid (.delete time)
  | .changeMQ mq => q.world.Valid (.changeMQ mq)
  | .connection .. => True

end Queued

def workQueue [UnicodeTables] (K : Kind) : System (Queued K) (QueueAct K) where
  valid := Queued.Valid
  next := Queued.next

end Queue

section Rest

variable {K : Kind}

/-- The reconcile read the resource as it is stored, up to its status and to annotations that the filter of the watch does
not look at: observe-only and force-orphan may have been set or removed since. -/
structure ReadBy (record : ReconcileRecord K) (obj : Workload K.Spec) : Prop where
  spec : record.obj.spec = obj.spec
  generation : record.obj.metadata.generation = obj.metadata.generation
  requested : annotationValue record.obj.metadata.annotations reconcileRequestedAtAnnotation =
    annotationValue obj.metadata.annotations reconcileRequestedAtAnnotation
  deletion : record.obj.metadata.deletionTimestamp = obj.metadata.deletionTimestamp
  finalizers : record.obj.metadata.finalizers = obj.metadata.finalizers

theorem ReadBy.of_unseen {record : ReconcileRecord K} {old new : Workload K.Spec} (read : ReadBy record old)
    (unseen : workloadReconcilePredicates old new = false) (spec : old.spec = new.spec) : ReadBy record new := by
  obtain ⟨generation, requested, deletion, finalizers⟩ := workloadReconcilePredicates_eq_false unseen
  exact ⟨read.spec.trans spec, read.generation.trans generation, read.requested.trans requested,
    read.deletion.trans deletion, read.finalizers.trans finalizers⟩

theorem World.finalizers_of_storeFinalizers {w : World K} {new kept : Workload K.Spec}
    (stays : (w.storeFinalizers .ok new).cr = some kept) : kept.metadata.finalizers = new.metadata.finalizers := by
  obtain ⟨before, -, stays⟩ := Option.bind_eq_some_iff.mp stays
  rw [retained_eq_some stays]

variable [UnicodeTables]

/-- Why a reconcile is not followed by another one until the resource changes. A terminal error need not be the resource's
fault: HTTP 401 and 403 are among them. -/
inductive Resting (record : ReconcileRecord K) : Prop
  | suspended (asked : workloadSuspended record.obj = true)
  | released (deleting : record.obj.metadata.deletionTimestamp.isSome = true)
      (gone : K.finalizer ∉ record.obj.metadata.finalizers)
  | terminal (e : MqError) (met : Met K record.env e) (terminal : e.isTerminal = true) (lasting : e.isTransient = false)

def Awaits (record : ReconcileRecord K) : Prop :=
  (∃ conn, record.env.connection (connectionRefName record.obj) = .found conn ∧ connectionReady conn = false) ∨
    ∃ e, record.env.connection (connectionRefName record.obj) = .notFound e

/-- Unless its key is queued, the resource is as its last reconcile read it, and either the key comes back or that
reconcile left nothing to do. -/
def Attended (q : Queued K) : Prop :=
  ∀ obj, q.world.cr = some obj → q.queued = true ∨
    ((∀ record, q.last = some record → ReadBy record obj) ∧
      (q.delayed = true ∨ ∃ record, q.last = some record ∧ Resting record))

theorem finalizers_of_update {w : World K} {env : Env K.Spec K.MQSpec K.State} {obj new kept : Workload K.Spec}
    {met : ObjectAddress K → Option Provenance} (read : env.object = .found obj)
    (called : .update new ∈ writes (reconcile K env)) (accepted : env.update = .ok)
    (stays : (w.next (.reconcile env met)).cr = some kept) : kept.metadata.finalizers = new.metadata.finalizers := by
  have flow := congrArg writes (reconcile_of_read (K := K) read)
  simp only [World.next, read] at stays
  rw [flow] at called stays
  have shape := reconcileWorkload_cases K env obj
  generalize writes (reconcileWorkload K env obj) = written at shape called stays
  -- a reconcile ends with its write of finalizers, if it makes one
  cases shape with
  | finalizerAdded unsuspended live absent =>
    obtain rfl : new = addFinalizer obj K.finalizer := by simpa using called
    rw [World.applyWrites, accepted] at stays
    exact World.finalizers_of_storeFinalizers stays
  | deleted admin gate success patched report plain reported =>
    obtain rfl : new = removeFinalizer patched K.finalizer := by simpa using called
    simp only [World.applyWrites, accepted] at stays
    exact World.finalizers_of_storeFinalizers stays
  | orphaned unsuspended deleting finalizer requested patched report plain reported =>
    obtain rfl : new = removeFinalizer patched K.finalizer := by simpa using called
    simp only [World.applyWrites, accepted] at stays
    exact World.finalizers_of_storeFinalizers stays
  | _ => simp at called

theorem resting_of_silent {w : World K} {env : Env K.Spec K.MQSpec K.State} {obj kept : Workload K.Spec}
    {met : ObjectAddress K → Option Provenance} (read : env.object = .found obj)
    (silent : (reconcile K env).value = ⟨0, none⟩) (stays : (w.next (.reconcile env met)).cr = some kept)
    (unseen : obj.metadata.finalizers = kept.metadata.finalizers) (address : ObjectAddress K) :
    Resting ⟨obj, env, address⟩ := by
  have flow := reconcile_of_read (K := K) read
  have excused := (reconcileWorkload_ends read).excused (flow ▸ silent)
  rw [← flow] at excused
  cases excused with
  | suspended asked => exact .suspended asked
  | terminal e met terminal lasting => exact .terminal e met terminal lasting
  | finalizerAdded absent added accepted =>
    have now := unseen.trans (finalizers_of_update read added accepted stays)
    refine absurd ?_ absent
    rw [now, addFinalizer, containsFinalizer, decide_eq_false absent]
    simp
  | finalizerGone deleting gone =>
    refine .released deleting ?_
    rcases gone with absent | ⟨patched, removed, accepted⟩
    · exact absent
    · rw [unseen, finalizers_of_update read removed accepted stays]
      simp [removeFinalizer]

theorem attended_reconcile {q : Queued K} {env : Env K.Spec K.MQSpec K.State} {met : ObjectAddress K → Option Provenance}
    (valid : q.Valid (.reconcile env met)) : Attended (q.next (.reconcile env met)) := by
  obtain ⟨-, worldly, missing, -, -⟩ := valid
  intro kept stays
  have stays : (q.world.next (.reconcile env met)).cr = some kept := stays
  cases read : env.object with
  | notFound e =>
    simp only [World.next, read] at stays
    rw [missing e read] at stays
    cases stays
  | failed e =>
    -- nothing was read, and the error brings the key back
    have result : (reconcile K env).value.comesBack = true := by
      rw [reconcile, read]
      rfl
    refine .inr ⟨?_, .inl ?_⟩
    · intro record remembered
      simp [Queued.next, Queued.record, read] at remembered
    · simp [Queued.next, result]
  | found obj =>
    have stored := worldly.1 obj read
    have remembered : (q.next (.reconcile env met)).last = some ⟨obj, env, q.world.address obj⟩ := by
      simp [Queued.next, Queued.record, read]
    cases seen : workloadReconcilePredicates obj kept with
    | true =>
      left
      simp only [Queued.next, Queued.watched, stored, stays, watchPasses, seen, Bool.or_true]
    | false =>
      right
      obtain ⟨generation, requested, deletion, finalizers⟩ := workloadReconcilePredicates_eq_false seen
      rcases next_reconcile_cases q.world env met worldly with ⟨unread, -⟩ | ⟨other, again, -, -, frame, -, -⟩
      · exact absurd read (unread obj)
      have same : other = obj := by
        rw [read] at again
        exact (Lookup.found.inj again).symm
      subst same
      refine ⟨?_, ?_⟩
      · intro record here
        rw [remembered] at here
        cases here
        exact ⟨(frame kept stays).1.symm, generation, requested, deletion, finalizers⟩
      · cases back : (reconcile K env).value.comesBack with
        | true => exact .inl (by simp [Queued.next, back])
        | false =>
          have silent := silent_of_not_comesBack back
          exact .inr ⟨_, remembered, resting_of_silent read silent stays finalizers _⟩

theorem attended_edit {q : Queued K} {new : Workload K.Spec} (attended : Attended q) (valid : q.Valid (.edit new)) :
    Attended (q.next (.edit new)) := by
  obtain ⟨stored, present, edit⟩ := valid
  intro kept stays
  have stays : (q.world.next (.edit new)).cr = some kept := stays
  obtain rfl : kept = new := retained_eq_some ((q.world.cr_edit new).symm.trans stays)
  cases seen : workloadReconcilePredicates stored kept with
  | true =>
    left
    simp only [Queued.next, Queued.watched, present, stays, watchPasses, seen, Bool.or_true]
  | false =>
    have spec : stored.spec = kept.spec := by
      rcases edit.generation with ⟨same, -⟩ | ⟨-, bumped⟩
      · exact same.symm
      · have generation := (workloadReconcilePredicates_eq_false seen).1
        omega
    rcases attended stored present with queued | ⟨read, left⟩
    · exact .inl (by simp [Queued.next, Queued.watched, queued])
    · exact .inr ⟨fun record here => (read record here).of_unseen seen spec, left⟩

theorem queued_delete {q : Queued K} {time : Nat} {kept : Workload K.Spec}
    (stays : (q.next (.delete time)).world.cr = some kept) : (q.next (.delete time)).queued = true := by
  have stays : (q.world.next (.delete time)).cr = some kept := stays
  obtain ⟨stored, present, retains⟩ := Option.bind_eq_some_iff.mp stays
  rw [retained_eq_some retains] at stays
  simp [Queued.next, Queued.watched, present, stays, watchPasses, workloadReconcilePredicates, generationChanged]

theorem attended_changeMQ {q : Queued K} {mq : ObjectAddress K → Option Provenance} (attended : Attended q) :
    Attended (q.next (.changeMQ mq)) := by
  intro obj stored
  rcases attended obj stored with queued | rest
  · exact .inl (by simp [Queued.next, Queued.watched, queued])
  · exact .inr rest

theorem attended_connection {q : Queued K} {name : String} {new : Option QueueManagerConnection}
    {requests : List Request} (attended : Attended q) : Attended (q.next (.connection name new requests)) := by
  intro kept stays
  have same : q.world.cr = some kept := by
    cases new with
    | none => exact stays
    | some conn => exact (q.world.cr_changeConnection name (managerAddress conn)).symm.trans stays
  rcases attended kept same with queued | rest
  · exact .inl (by simp [Queued.next, queued])
  · exact .inr rest

/-- From a resource whose creation has queued its key, in any order of events: unless the key is queued or comes back by
itself, the last reconcile read the resource as it still is, and the resource is suspended, has been released, or met a
terminal error. -/
theorem key_never_lost {allowed : Queued K → QueueAct K → Prop} {first last : Queued K}
    (created : first.queued = true) (run : (workQueue K).Reach allowed first last) :
    last.queued = true ∨ last.delayed = true ∨ ∀ obj, last.world.cr = some obj →
      ∃ record, last.last = some record ∧ ReadBy record obj ∧ Resting record := by
  have attended : Attended last := by
    refine run.invariant Attended (fun obj _ => .inl created) ?_
    intro q act holds valid _
    cases act with
    | reconcile env met => exact attended_reconcile valid
    | delayOver => exact fun obj _ => .inl rfl
    | edit new => exact attended_edit holds valid
    | delete time => exact fun obj stays => .inl (queued_delete stays)
    | changeMQ mq => exact attended_changeMQ holds
    | connection name new requests => exact attended_connection holds
  cases queued : last.queued with
  | true => exact .inl rfl
  | false =>
    cases delayed : last.delayed with
    | true => exact .inr (.inl rfl)
    | false =>
      refine .inr (.inr fun obj stored => ?_)
      rcases attended obj stored with absurdity | ⟨read, absurdity | ⟨record, here, resting⟩⟩
      · cases queued.symm.trans absurdity
      · cases delayed.symm.trans absurdity
      · exact ⟨record, here, read record here, resting⟩

end Rest

section Promptness

variable [UnicodeTables]

/-- The requests for a changed connection are those of `requestsForConnection`, and the List of the resource's own kind
finds it. -/
def ListsAnswer (k : WorkloadKind) (q : Queued (reconcilerOf k)) : QueueAct (reconcilerOf k) → Prop
  | .connection name new requests => ∀ obj conn, q.world.cr = some obj → new = some conn →
      conn.metadata.name = name ∧ conn.metadata.ns = obj.metadata.ns ∧
        ∃ lists items, requests = requestsForConnection lists conn ∧ lists k = .ok items ∧ obj ∈ items
  | _ => True

def Waiting {K : Kind} (q : Queued K) : Prop :=
  ∀ obj record, q.world.cr = some obj → q.queued = false → q.last = some record → Awaits record →
    isReady (q.connections (connectionRefName obj)) = false

theorem waiting_reconcile {K : Kind} {q : Queued K} {env : Env K.Spec K.MQSpec K.State}
    {met : ObjectAddress K → Option Provenance} (valid : q.Valid (.reconcile env met)) :
    Waiting (q.next (.reconcile env met)) := by
  intro kept record stays unqueued remembered awaits
  obtain ⟨-, -, -, found, missing⟩ := id valid
  rcases attended_reconcile valid kept stays with absurdity | ⟨read, -⟩
  · cases unqueued.symm.trans absurdity
  have same : connectionRefName record.obj = connectionRefName kept := by
    rw [connectionRefName, (read record remembered).spec, connectionRefName]
  have by_env : record.env = env := by
    simp only [Queued.next, Queued.record] at remembered
    cases object : env.object <;> rw [object] at remembered <;> cases remembered
    rfl
  show isReady (q.connections (connectionRefName kept)) = false
  rw [← same]
  rcases awaits with ⟨conn, there, unready⟩ | ⟨e, absent⟩
  · rw [by_env] at there
    rw [found _ _ there]
    exact unready
  · rw [by_env] at absent
    rw [missing _ _ absent]
    rfl

theorem waiting_edit {K : Kind} {q : Queued K} {new : Workload K.Spec} (attended : Attended q) (waiting : Waiting q)
    (valid : q.Valid (.edit new)) : Waiting (q.next (.edit new)) := by
  intro kept record stays unqueued remembered awaits
  rcases attended_edit attended valid kept stays with absurdity | ⟨read, -⟩
  · cases unqueued.symm.trans absurdity
  obtain ⟨stored, present, -⟩ := valid
  have before : q.queued = false := (Bool.or_eq_false_iff.mp unqueued).1
  rcases attended stored present with absurdity | ⟨earlier, -⟩
  · cases before.symm.trans absurdity
  have same : connectionRefName kept = connectionRefName stored := by
    rw [connectionRefName, ← (read record remembered).spec, (earlier record remembered).spec, connectionRefName]
  rw [same]
  exact waiting stored record present before remembered awaits

theorem named_of_listsAnswer {k : WorkloadKind} {q : Queued (reconcilerOf k)} {name : String}
    {conn : QueueManagerConnection} {requests : List Request} {obj : Workload (reconcilerOf k).Spec}
    (answer : ListsAnswer k q (.connection name (some conn) requests)) (stored : q.world.cr = some obj)
    (refers : connectionRefName obj = name) : q.named requests = true := by
  obtain ⟨called, home, lists, items, rfl, listed, member⟩ := answer obj conn stored rfl
  have asked : (⟨obj.metadata.ns, obj.metadata.name⟩ : Request) ∈ requestsForConnection lists conn :=
    (mem_requestsForConnection_iff lists conn _).mpr ⟨k, items, listed, obj, member, refers.trans called.symm, by rw [home]⟩
  simp [Queued.named, stored, asked]

theorem waiting_connection {k : WorkloadKind} {q : Queued (reconcilerOf k)} {name : String}
    {new : Option QueueManagerConnection} {requests : List Request} (waiting : Waiting q)
    (answer : ListsAnswer k q (.connection name new requests)) : Waiting (q.next (.connection name new requests)) := by
  intro obj record stays unqueued remembered awaits
  have stored : q.world.cr = some obj := by
    cases new with
    | none => exact stays
    | some conn => exact (q.world.cr_changeConnection name (managerAddress conn)).symm.trans stays
  obtain ⟨before, silent⟩ := Bool.or_eq_false_iff.mp unqueued
  have unready := waiting obj record stored before remembered awaits
  show isReady (Function.update q.connections name new (connectionRefName obj)) = false
  by_cases refers : connectionRefName obj = name
  · rw [refers] at unready ⊢
    rw [Function.update_self]
    cases now : isReady new with
    | false => rfl
    | true =>
      -- the change passes the filter and its requests name the resource
      have passes := connectionWatchPredicates_of_turnsReady unready now
      cases new with
      | none => cases now
      | some conn =>
        have asked := named_of_listsAnswer answer stored refers
        rw [passes, asked] at silent
        cases silent
  · rw [Function.update_of_ne refers]
    exact unready

/-- A resource that waits for its connection does not sit out the delay: once the connection is ready, its key is
queued. -/
theorem queued_when_ready (k : WorkloadKind) {first last : Queued (reconcilerOf k)} (created : first.queued = true)
    (run : (workQueue (reconcilerOf k)).Reach (ListsAnswer k) first last) {obj : Workload (reconcilerOf k).Spec}
    {record : ReconcileRecord (reconcilerOf k)} (stored : last.world.cr = some obj) (remembered : last.last = some record)
    (awaits : Awaits record) (ready : isReady (last.connections (connectionRefName obj)) = true) :
    last.queued = true := by
  have both : Attended last ∧ Waiting last := by
    refine run.invariant (fun q => Attended q ∧ Waiting q) ⟨fun obj _ => .inl created, ?_⟩ ?_
    · intro obj record _ unqueued
      cases created.symm.trans unqueued
    intro q act holds valid answer
    obtain ⟨attended, waiting⟩ := holds
    cases act with
    | reconcile env met => exact ⟨attended_reconcile valid, waiting_reconcile valid⟩
    | delayOver => exact ⟨fun obj _ => .inl rfl, fun _ _ _ unqueued => by cases unqueued⟩
    | edit new => exact ⟨attended_edit attended valid, waiting_edit attended waiting valid⟩
    | delete time =>
      refine ⟨fun obj stays => .inl (queued_delete stays), fun obj record stays unqueued => ?_⟩
      cases unqueued.symm.trans (queued_delete stays)
    | changeMQ mq =>
      refine ⟨attended_changeMQ attended, fun obj record stored unqueued => ?_⟩
      exact waiting obj record stored (Bool.or_eq_false_iff.mp unqueued).1
    | connection name new requests => exact ⟨attended_connection attended, waiting_connection waiting answer⟩
  by_contra unqueued
  have cold := both.2 obj record stored (Bool.eq_false_of_not_eq_true unqueued) remembered awaits
  rw [ready] at cold
  cases cold

end Promptness

section Cases

attribute [local instance] asciiTables

def queuedOrders (suspend : Bool) : Queued queueReconciler where
  world := .initial { ordersQueue none with spec := { (ordersQueue none).spec with suspend } } (fun _ => calmManager)
    fun _ => false
  connections _ := none
  queued := true
  delayed := false
  last := none

def connectionless (q : Queued queueReconciler) : Env Api.QueueSpec MqAdmin.QueueSpec QueueState :=
  { readyCluster queueReconciler (q.world.cr.elim (.notFound (.plain "not found")) .found)
      (emptyQueueManager queueReconciler) with
    connection := fun name => .notFound (.plain name) }

theorem connectionless_valid (suspend : Bool) :
    (queuedOrders suspend).Valid (.reconcile (connectionless (queuedOrders suspend)) (queuedOrders suspend).world.mq) := by
  refine ⟨rfl, ⟨?_, ?_, fun _ => .inl ?_⟩, ?_, ?_, fun _ _ _ => rfl⟩
  · intro obj read
    cases read
    rfl
  · intro name conn found
    cases found
  · cases suspend <;> rfl
  · intro e missing
    cases missing
  · intro name conn found
    cases found

def ordersOnce (suspend : Bool) : Queued queueReconciler :=
  (queuedOrders suspend).next (.reconcile (connectionless (queuedOrders suspend)) (queuedOrders suspend).world.mq)

theorem ordersOnce_reached (suspend : Bool) (allowed : Queued queueReconciler → QueueAct queueReconciler → Prop)
    (permitted : allowed (queuedOrders suspend)
      (.reconcile (connectionless (queuedOrders suspend)) (queuedOrders suspend).world.mq)) :
    (workQueue queueReconciler).Reach allowed (queuedOrders suspend) (ordersOnce suspend) :=
  System.Reach.start.step _ (connectionless_valid suspend) permitted

theorem key_never_lost_suspended :
    (ordersOnce true).queued = false ∧ (ordersOnce true).delayed = false ∧
      ∀ obj, (ordersOnce true).world.cr = some obj →
        ∃ record, (ordersOnce true).last = some record ∧ ReadBy record obj ∧ Resting record := by
  refine ⟨rfl, rfl, ?_⟩
  rcases key_never_lost rfl (ordersOnce_reached true (fun _ _ => True) trivial) with queued | delayed | rests
  · cases queued
  · cases delayed
  · exact rests

def ordersLists (cr : Option (Workload Api.QueueSpec)) : WorkloadLists
  | .queue => .ok cr.toList
  | .topic => .ok []
  | .channel => .ok []
  | .channelAuthRule => .ok []
  | .authorityRecord => .ok []

def connectionCreated : QueueAct queueReconciler :=
  .connection "qm1" (some (readyConnection "qm1"))
    (requestsForConnection (ordersLists (ordersOnce false).world.cr) (readyConnection "qm1"))

theorem queued_when_ready_orders : ((ordersOnce false).next connectionCreated).queued = true := by
  have waited := ordersOnce_reached false (ListsAnswer .queue) trivial
  have answer : ListsAnswer .queue (ordersOnce false) connectionCreated := by
    intro obj conn stored here
    cases here
    cases stored
    exact ⟨rfl, rfl, _, _, rfl, rfl, List.mem_cons_self⟩
  exact queued_when_ready .queue rfl (waited.step connectionCreated trivial answer) rfl rfl (.inr ⟨_, rfl⟩) rfl

end Cases

end MKurator.Controller
