import MKurator.Controller.Effects
import MKurator.Controller.Kinds

/-! Which errors a reconcile meets, and that it gives up on none of them silently: it asks to be run again after a delay,
it returns the error, or the error is terminal. -/

namespace MKurator.Controller
open MKurator.Api MKurator.MqAdmin MKurator.Lib MKurator.Lib.Strings

theorem mem_chain (e : MqError) : e ∈ e.chain := by
  cases e <;> exact List.mem_cons_self

def Reconciled.Returns (result : Reconciled) (e : MqError) : Prop :=
  ∃ returned, result.err = some returned ∧ e ∈ returned.chain

section Writes

variable {σ μ τ : Type} (env : Env σ μ τ)

/-- The errors with which the API server answered the writes among the calls; `n` counts the status writes so far. -/
def failedWrites (n : Nat) : List (Call σ μ) → List MqError
  | [] => []
  | .statusUpdate _ :: rest => (env.statusUpdate n).err.toList ++ failedWrites (n + 1) rest
  | .update _ :: rest => env.update.err.toList ++ failedWrites n rest
  | _ :: rest => failedWrites n rest

theorem failedWrites_filter (calls : List (Call σ μ)) (n : Nat) :
    failedWrites env n (calls.filter Call.isWrite) = failedWrites env n calls := by
  induction calls generalizing n with
  | nil => rfl
  | cons call rest ih => cases call <;> simp [failedWrites, List.filter_cons, Call.isWrite, ih]

/-- The Kubernetes client returns no error of the MQ port. -/
structure KubernetesErrors : Prop where
  object : ∀ e, env.object = .failed e → e.isTransient = false
  status : ∀ n e, (env.statusUpdate n).err = some e → e.isTransient = false
  update : ∀ e, env.update.err = some e → e.isTransient = false

variable {env} in
theorem KubernetesErrors.write (kubernetes : KubernetesErrors env) {calls : List (Call σ μ)} {n : Nat} {e : MqError}
    (failed : e ∈ failedWrites env n calls) : e.isTransient = false := by
  induction calls generalizing n with
  | nil => exact absurd failed List.not_mem_nil
  | cons call rest ih =>
    cases call with
    | statusUpdate obj =>
      rcases List.mem_append.mp failed with first | later
      · exact kubernetes.status n e (Option.mem_toList.mp first)
      · exact ih later
    | update obj =>
      rcases List.mem_append.mp failed with first | later
      · exact kubernetes.update e (Option.mem_toList.mp first)
      · exact ih later
    | _ => exact ih failed

/-- A transient error is retried after a delay; one that is neither transient nor terminal is, too, or it is returned,
unless the status write that was to report it failed and that error is returned instead. -/
structure Handled (e : MqError) (result : Reconciled) : Prop where
  transient : e.isTransient = true → 0 < result.requeueAfter
  unclassified : e.isTransient = false → e.isTerminal = false → 0 < result.requeueAfter ∨ result.Returns e ∨
    ∃ n failure, (env.statusUpdate n).err = some failure ∧ result.Returns failure

theorem handled_of_delay {e : MqError} {result : Reconciled} (delay : 0 < result.requeueAfter) : Handled env e result :=
  ⟨fun _ => delay, fun _ _ => .inl delay⟩

theorem handled_of_returns {e : MqError} {result : Reconciled} (foreign : e.isTransient = false) (returned : result.Returns e) :
    Handled env e result where
  transient transient := by
    rw [foreign] at transient
    cases transient
  unclassified _ _ := .inr (.inl returned)

theorem value_handleAdoptionBlock (obj : Workload σ) (block : AdoptionBlockedError) (mqExists : Bool) :
    (handleAdoptionBlock env obj block mqExists).value = match (env.statusUpdate 0).err with
      | some e => ⟨0, some e⟩
      | none => ⟨env.intervals.driftResyncAfter, none⟩ := by
  unfold handleAdoptionBlock patchSyncedAdoptionBlocked
  simp only [Traced.value_bind, value_patchSyncedStatus]
  cases (env.statusUpdate 0).err <;> rfl

variable [UnicodeTables]

theorem value_setSyncedError (n : Nat) (obj : Workload σ) (e : MqError) (mqObjectExists : Option Bool) :
    (setSyncedError env n obj e mqObjectExists).value =
      ⟨if e.isTransient then env.intervals.transientRequeue else 0,
        (env.statusUpdate n).err.or (if e.isTransient || e.isTerminal then none else some e)⟩ := by
  unfold setSyncedError
  simp only [Traced.value_bind, value_patchSyncedStatus]
  cases (env.statusUpdate n).err <;> rfl

theorem setSyncedError_handled (n : Nat) (obj : Workload σ) (e : MqError) (mqObjectExists : Option Bool) :
    Handled env e (setSyncedError env n obj e mqObjectExists).value := by
  rw [value_setSyncedError]
  cases transient : e.isTransient with
  | true => exact handled_of_delay env env.intervals.transientRequeue_pos
  | false =>
    refine ⟨fun absurdity => (by rw [transient] at absurdity; cases absurdity), fun _ unclassified => ?_⟩
    cases report : (env.statusUpdate n).err with
    | none => exact .inr (.inl ⟨e, by simp [unclassified], mem_chain e⟩)
    | some failure => exact .inr (.inr ⟨n, failure, report, failure, rfl, mem_chain failure⟩)

theorem value_deletionAwaitingConnection (obj : Workload σ) (e : MqError) :
    (deletionAwaitingConnection env obj e).value = ⟨env.intervals.connectionWait, (env.statusUpdate 0).err⟩ := by
  unfold deletionAwaitingConnection patchSyncedProgressing
  rw [Traced.value_bind, value_patchSyncedStatus]
  rfl

end Writes

section Port

variable {K : Kind} {obj : Workload K.Spec}

theorem ensure_calls_isMQ (admin : Admin K.MQSpec K.State) (spec : K.MQSpec) :
    ∀ call ∈ (K.ensure admin obj spec).calls, call.isMQ = true := by
  have read_isMQ : ∀ call : Call K.Spec K.MQSpec, call.isMQRead = true → call.isMQ = true := by
    intro call read
    cases call <;> first | rfl | cases read
  have ensured := K.ensure_cases admin obj spec
  generalize (K.ensure admin obj spec).calls = calls at ensured
  generalize (K.ensure admin obj spec).value = result at ensured
  intro call member
  cases ensured with
  | getFailed e failure other =>
    rw [List.mem_singleton.mp member]
    rfl
  | defineFailed keys e reads readOnly =>
    rcases List.mem_append.mp member with read | last
    · exact read_isMQ call (readOnly call read)
    · rw [List.mem_singleton.mp last]
      rfl
  | defined keys reads readOnly =>
    rcases List.mem_append.mp member with read | last
    · exact read_isMQ call (readOnly call read)
    · rw [List.mem_singleton.mp last]
      rfl
  | keysFailed e reads readOnly => exact read_isMQ call (readOnly call member)
  | blocked keys block reads readOnly => exact read_isMQ call (readOnly call member)
  | drifted keys message reads readOnly => exact read_isMQ call (readOnly call member)
  | inSync keys reads readOnly => exact read_isMQ call (readOnly call member)

theorem ensure_getFailed {admin : Admin K.MQSpec K.State} {spec : K.MQSpec} (obj : Workload K.Spec) {e : MqError}
    (failed : (admin.get spec).2 = some e) (other : e.isNotFound = false) :
    (K.ensure admin obj spec).value.err = some (.failed e) := by
  have unanswered : ¬K.GetAnswered admin spec := fun answered => by
    rw [answered e failed] at other
    cases other
  have ensured := K.ensure_cases admin obj spec
  generalize (K.ensure admin obj spec).calls = calls at ensured
  generalize (K.ensure admin obj spec).value = result at ensured
  cases ensured with
  | getFailed e' failure =>
    rw [failed] at failure
    cases failure
    rfl
  | _ => exact absurd ‹_› unanswered

theorem ensure_keysFailed {admin : Admin K.MQSpec K.State} {spec : K.MQSpec} (obj : Workload K.Spec) {e : MqError}
    (answered : K.GetAnswered admin spec) (failed : K.driftKeys admin spec = .error e) :
    (K.ensure admin obj spec).value.err = some (.failed e) := by
  have unresolved : ∀ keys, K.driftKeys admin spec ≠ .ok keys := fun keys resolved => by
    rw [failed] at resolved
    cases resolved
  have ensured := K.ensure_cases admin obj spec
  generalize (K.ensure admin obj spec).calls = calls at ensured
  generalize (K.ensure admin obj spec).value = result at ensured
  cases ensured with
  | getFailed e' failure other =>
    rw [answered e' failure] at other
    cases other
  | keysFailed e' reads readOnly answered' failure =>
    rw [failed] at failure
    cases failure
    rfl
  | _ => exact absurd ‹_› (unresolved _)

theorem ensure_defineFailed {admin : Admin K.MQSpec K.State} {spec : K.MQSpec} (obj : Workload K.Spec) {e : MqError}
    (called : .define spec ∈ (K.ensure admin obj spec).calls) (failed : (admin.define spec).err = some e) :
    (K.ensure admin obj spec).value.err = some (.failed e) := by
  have ensured := K.ensure_cases admin obj spec
  generalize (K.ensure admin obj spec).calls = calls at ensured called
  generalize (K.ensure admin obj spec).value = result at ensured
  have unread : ∀ reads : List (Call K.Spec K.MQSpec), (∀ call ∈ reads, call.isMQRead = true) → .define spec ∉ reads := by
    intro reads readOnly member
    cases readOnly _ member
  cases ensured with
  | defineFailed keys e' reads readOnly answered resolved acting needed permitted failure =>
    rw [failed] at failure
    cases failure
    rfl
  | defined keys reads readOnly answered resolved acting needed permitted success =>
    rw [success] at failed
    cases failed
  | getFailed e' failure other => exact absurd (List.mem_singleton.mp called) nofun
  | keysFailed e' reads readOnly => exact absurd called (unread _ readOnly)
  | blocked keys block reads readOnly => exact absurd called (unread _ readOnly)
  | drifted keys message reads readOnly => exact absurd called (unread _ readOnly)
  | inSync keys reads readOnly => exact absurd called (unread _ readOnly)

end Port

section Errors

variable [UnicodeTables] (K : Kind) (env : Env K.Spec K.MQSpec K.State)

def Engages (obj : Workload K.Spec) : Prop :=
  workloadSuspended obj = false ∧ (obj.metadata.deletionTimestamp.isSome = true →
    K.finalizer ∈ obj.metadata.finalizers ∧ orphanDeletionRequested obj = false)

/-- The errors that a reconcile meets, each behind the guards that lead to it. A GET that finds no object is an answer. -/
inductive Met : MqError → Prop
  | object (e : MqError) (unread : env.object = .failed e) : Met e
  | write (e : MqError) (refused : e ∈ failedWrites env 0 (reconcile K env).calls) : Met e
  | connection (obj : Workload K.Spec) (read : env.object = .found obj) (engages : Engages K obj) (e : MqError)
      (unresolved : (resolveConnection env obj).value = .error e) : Met e
  | port (obj : Workload K.Spec) (read : env.object = .found obj) (engages : Engages K obj) (conn : QueueManagerConnection)
      (found : env.connection (connectionRefName obj) = .found conn) (ready : conditionsReady conn.conditions = true)
      (e : MqError) (refused : env.forConnection conn = .error e) : Met e
  | unsupported (obj : Workload K.Spec) (read : env.object = .found obj) (admin : Admin K.MQSpec K.State)
      (unsuspended : workloadSuspended obj = false) (live : obj.metadata.deletionTimestamp = none)
      (finalizer : K.finalizer ∈ obj.metadata.finalizers) (reaches : Reaches K env obj admin) (e : MqError)
      (refused : K.unsupported obj.spec = some e) : Met e
  | format (obj : Workload K.Spec) (read : env.object = .found obj) (admin : Admin K.MQSpec K.State)
      (gate : EnsureGate K env obj admin) (e : MqError) (refused : K.format (K.toMQ obj.spec) = .error e) : Met e
  | get (obj : Workload K.Spec) (read : env.object = .found obj) (admin : Admin K.MQSpec K.State)
      (gate : EnsureGate K env obj admin) (text : String) (formatted : K.format (K.toMQ obj.spec) = .ok text) (e : MqError)
      (failed : (admin.get (K.toMQ obj.spec)).2 = some e) (other : e.isNotFound = false) : Met e
  | keys (obj : Workload K.Spec) (read : env.object = .found obj) (admin : Admin K.MQSpec K.State)
      (gate : EnsureGate K env obj admin) (text : String) (formatted : K.format (K.toMQ obj.spec) = .ok text) (e : MqError)
      (answered : K.GetAnswered admin (K.toMQ obj.spec)) (failed : K.driftKeys admin (K.toMQ obj.spec) = .error e) : Met e
  | define (obj : Workload K.Spec) (read : env.object = .found obj) (admin : Admin K.MQSpec K.State)
      (gate : EnsureGate K env obj admin) (text : String) (formatted : K.format (K.toMQ obj.spec) = .ok text) (e : MqError)
      (called : .define (K.toMQ obj.spec) ∈ (K.ensure admin obj (K.toMQ obj.spec)).calls)
      (failed : (admin.define (K.toMQ obj.spec)).err = some e) : Met e
  | delete (obj : Workload K.Spec) (read : env.object = .found obj) (admin : Admin K.MQSpec K.State)
      (gate : DeleteGate K env obj admin) (reported : env.statusUpdate 0 = .ok) (e : MqError)
      (failed : (admin.delete (K.toMQ obj.spec)).err = some e) : Met e

end Errors

section Paths

variable [UnicodeTables] {K : Kind} {env : Env K.Spec K.MQSpec K.State} {obj : Workload K.Spec}

def reachPort (env : Env K.Spec K.MQSpec K.State) (obj : Workload K.Spec)
    (failed : MqError → Traced (Call K.Spec K.MQSpec) Reconciled)
    (next : Admin K.MQSpec K.State → Traced (Call K.Spec K.MQSpec) Reconciled) : Traced (Call K.Spec K.MQSpec) Reconciled := do
  match ← resolveConnection env obj with
  | .error e => failed e
  | .ok conn =>
    match ← waitForConnectionReady env obj conn with
    | some result => return result
    | none =>
      match ← forConnection env conn with
      | .error e => failed e
      | .ok admin => next admin

theorem reconcileWorkload_live (unsuspended : workloadSuspended obj = false) (live : obj.metadata.deletionTimestamp = none) :
    reconcileWorkload K env obj = reachPort env obj (fun e => setSyncedError env 0 obj e none) fun admin =>
      if containsFinalizer obj K.finalizer then ensureAndReport K env obj admin
      else do
        let answer ← .call (.update (addFinalizer obj K.finalizer)) env.update
        return ⟨0, answer.err.map (.wrapped "add finalizer")⟩ := by
  rw [reconcileWorkload, if_neg (by rw [unsuspended]; decide), if_neg (by rw [live]; decide)]
  rfl

theorem reconcileWorkload_deleting (unsuspended : workloadSuspended obj = false)
    (deleting : obj.metadata.deletionTimestamp.isSome = true) (finalizer : K.finalizer ∈ obj.metadata.finalizers)
    (notOrphaned : orphanDeletionRequested obj = false) :
    reconcileWorkload K env obj = reachPort env obj (deletionAwaitingConnection env obj) (handleDeletion K env obj) := by
  have present : containsFinalizer obj K.finalizer = true := decide_eq_true finalizer
  rw [reconcileWorkload, if_neg (by rw [unsuspended]; decide), if_pos deleting, reconcileWorkloadDeletion,
    if_neg (by rw [present]; decide), if_neg (by rw [notOrphaned]; decide)]
  rfl

theorem value_reachPort (failed : MqError → Traced (Call K.Spec K.MQSpec) Reconciled)
    (next : Admin K.MQSpec K.State → Traced (Call K.Spec K.MQSpec) Reconciled) {admin : Admin K.MQSpec K.State}
    (reaches : Reaches K env obj admin) : (reachPort env obj failed next).value = (next admin).value := by
  obtain ⟨conn, found, ready, port⟩ := reaches
  have resolved : (resolveConnection env obj).value = .ok conn := by
    simp only [resolveConnection, found]
    rfl
  have waits : (waitForConnectionReady env obj conn).value = none := by
    rw [waitForConnectionReady, if_pos ready]
    rfl
  simp only [reachPort, Traced.value_bind, resolved, waits, forConnection, port, Traced.value_call]

theorem reconcile_of_read (read : env.object = .found obj) : reconcile K env = reconcileWorkload K env obj := by
  rw [reconcile, read]

theorem value_reconcile_ensure (read : env.object = .found obj) {admin : Admin K.MQSpec K.State}
    (unsuspended : workloadSuspended obj = false) (live : obj.metadata.deletionTimestamp = none)
    (finalizer : K.finalizer ∈ obj.metadata.finalizers) (reaches : Reaches K env obj admin) :
    (reconcile K env).value = (ensureAndReport K env obj admin).value := by
  have present : containsFinalizer obj K.finalizer = true := decide_eq_true finalizer
  rw [reconcile_of_read read, reconcileWorkload_live unsuspended live, value_reachPort _ _ reaches, if_pos present]

theorem value_reconcile_deletion (read : env.object = .found obj) {admin : Admin K.MQSpec K.State}
    (gate : DeleteGate K env obj admin) : (reconcile K env).value = (handleDeletion K env obj admin).value := by
  rw [reconcile_of_read read, reconcileWorkload_deleting gate.unsuspended gate.deleting gate.finalizer gate.notOrphaned,
    value_reachPort _ _ gate.reaches]

end Paths

section Ends

variable [UnicodeTables] (K : Kind) (env : Env K.Spec K.MQSpec K.State) (obj : Workload K.Spec)

/-- Why a reconcile may end without an error and without asking to be run again: the next change of the resource, or its
end, is what it waits for. -/
inductive Excused (written : List (Call K.Spec K.MQSpec)) : Prop
  | suspended (asked : workloadSuspended obj = true)
  | finalizerAdded (absent : K.finalizer ∉ obj.metadata.finalizers)
      (added : .update (addFinalizer obj K.finalizer) ∈ written) (accepted : env.update = .ok)
  | finalizerGone (deleting : obj.metadata.deletionTimestamp.isSome = true)
      (gone : K.finalizer ∉ obj.metadata.finalizers ∨
        ∃ patched, .update (removeFinalizer patched K.finalizer) ∈ written ∧ env.update = .ok)
  | terminal (e : MqError) (met : Met K env e) (terminal : e.isTerminal = true) (lasting : e.isTransient = false)

structure Ends (written : List (Call K.Spec K.MQSpec)) (result : Reconciled) : Prop where
  surfaces : ∀ e ∈ failedWrites env 0 written, result.Returns e
  excused : result = ⟨0, none⟩ → Excused K env obj written

variable {K env obj}

theorem Ends.of_last {written : List (Call K.Spec K.MQSpec)} (answer : WriteAnswer) (result : Option MqError → Reconciled)
    (only : failedWrites env 0 written = answer.err.toList) (failed : ∀ e, (result (some e)).Returns e)
    (fine : answer = .ok → result none = ⟨0, none⟩ → Excused K env obj written) :
    Ends K env obj written (result answer.err) where
  surfaces e member := by
    rw [only] at member
    rw [Option.mem_toList.mp member]
    exact failed e
  excused silent := by
    cases given : answer.err with
    | none =>
      rw [given] at silent
      exact fine ((WriteAnswer.err_eq_none_iff _).mp given) silent
    | some e =>
      obtain ⟨returned, shown, -⟩ := failed e
      rw [given] at silent
      rw [silent] at shown
      cases shown

theorem Ends.of_failure {written : List (Call K.Spec K.MQSpec)} {result : Reconciled} {e : MqError}
    (only : failedWrites env 0 written = [e]) (returned : result.Returns e) : Ends K env obj written result where
  surfaces e' member := by
    rw [only] at member
    rwa [List.mem_singleton.mp member]
  excused silent := by
    obtain ⟨shown, given, -⟩ := returned
    rw [silent] at given
    cases given

theorem Ends.of_delay {patched : Workload K.Spec} {delay : Nat} (positive : 0 < delay) (wrap : MqError → MqError)
    (kept : ∀ e, e ∈ (wrap e).chain) :
    Ends K env obj [.statusUpdate patched] (match (env.statusUpdate 0).err with
      | some e => ⟨0, some (wrap e)⟩
      | none => ⟨delay, none⟩) := by
  refine .of_last (env.statusUpdate 0) (fun
    | some e => ⟨0, some (wrap e)⟩
    | none => ⟨delay, none⟩) (List.append_nil _) (fun e => ⟨wrap e, rfl, kept e⟩) fun _ silent => ?_
  exact absurd (congrArg Reconciled.requeueAfter silent) (Nat.ne_of_gt positive)

theorem setSyncedError_ends {e : MqError} (met : Met K env e) (n : Nat) (reported : Workload K.Spec)
    (mqObjectExists : Option Bool) {written : List (Call K.Spec K.MQSpec)}
    (only : failedWrites env 0 written = (env.statusUpdate n).err.toList) :
    Ends K env obj written (setSyncedError env n reported e mqObjectExists).value := by
  rw [value_setSyncedError]
  refine .of_last (env.statusUpdate n) (fun answer => ⟨_, answer.or _⟩) only (fun e => ⟨e, rfl, mem_chain e⟩) ?_
  intro _ silent
  cases transient : e.isTransient with
  | true =>
    rw [transient] at silent
    exact absurd (congrArg Reconciled.requeueAfter silent) (Nat.ne_of_gt env.intervals.transientRequeue_pos)
  | false =>
    cases terminal : e.isTerminal with
    | true => exact .terminal e met terminal transient
    | false =>
      rw [transient, terminal] at silent
      cases silent

theorem setSyncedError_only {e : MqError} (met : Met K env e) (reported : Workload K.Spec) (mqObjectExists : Option Bool) :
    Ends K env obj (writes (setSyncedError env 0 reported e mqObjectExists))
      (setSyncedError env 0 reported e mqObjectExists).value := by
  apply setSyncedError_ends met
  rw [writes_setSyncedError K]
  exact List.append_nil _

theorem waitForConnectionReady_ends (conn : QueueManagerConnection) :
    (conditionsReady conn.conditions = true ∧ writes (waitForConnectionReady env obj conn) = [] ∧
      (waitForConnectionReady env obj conn).value = none) ∨
    ∃ result, (waitForConnectionReady env obj conn).value = some result ∧
      Ends K env obj (writes (waitForConnectionReady env obj conn)) result := by
  unfold waitForConnectionReady patchSyncedProgressing
  cases ready : conditionsReady conn.conditions with
  | true => exact .inl ⟨rfl, rfl, rfl⟩
  | false =>
    have waited : Ends K env obj [.statusUpdate (applyPatch env.now obj
        (reportPatch reasonProgressing (connectionWaitMessage conn) none true))] (match (env.statusUpdate 0).err with
          | some e => ⟨0, some e⟩
          | none => ⟨env.intervals.connectionWait, none⟩) :=
      .of_delay env.intervals.connectionWait_pos id mem_chain
    right
    simp only [Bool.false_eq_true, if_false, writes_bind, writes_patchSyncedStatus, Traced.value_bind,
      value_patchSyncedStatus]
    cases answer : (env.statusUpdate 0).err with
    | some e =>
      rw [answer] at waited
      exact ⟨_, rfl, waited⟩
    | none =>
      rw [answer] at waited
      exact ⟨_, rfl, waited⟩

theorem value_reportEnsure (reported : Workload K.Spec) (mqExists : Bool) (drift : Option String) :
    (reportEnsure K env reported ⟨mqExists, drift, none⟩).value = match (env.statusUpdate 0).err with
      | some e => ⟨0, some (.wrapped "update status" e)⟩
      | none => ⟨env.intervals.driftResyncAfter, none⟩ := by
  cases drift with
  | none =>
    unfold reportEnsure patchSyncedAvailable
    simp only [Traced.value_bind, value_patchSyncedStatus]
    cases (env.statusUpdate 0).err <;> rfl
  | some message =>
    unfold reportEnsure patchSyncedDrift
    simp only [Traced.value_bind, value_patchSyncedStatus]
    cases (env.statusUpdate 0).err <;> rfl

theorem reportEnsure_ends (reported : Workload K.Spec) (out : EnsureResult)
    (met : ∀ e, out.err = some (.failed e) → Met K env e) :
    Ends K env obj (writes (reportEnsure K env reported out)) (reportEnsure K env reported out).value := by
  rcases out with ⟨mqExists, drift, err⟩
  have later := env.intervals.driftResyncAfter_pos
  rcases err with _ | (block | e)
  · rw [writes_reportEnsure, value_reportEnsure]
    exact .of_delay later (.wrapped "update status") fun e => List.mem_cons_of_mem _ (mem_chain e)
  · rw [writes_reportEnsure]
    exact value_handleAdoptionBlock env reported block mqExists ▸ .of_delay later id mem_chain
  · exact setSyncedError_only (met e rfl) reported (some mqExists)

theorem ensure_failed_met (read : env.object = .found obj) {admin : Admin K.MQSpec K.State} (gate : EnsureGate K env obj admin)
    {text : String} (formatted : K.format (K.toMQ obj.spec) = .ok text) {e : MqError}
    (failed : (K.ensure admin obj (K.toMQ obj.spec)).value.err = some (.failed e)) : Met K env e := by
  have ensured := K.ensure_cases admin obj (K.toMQ obj.spec)
  generalize made : (K.ensure admin obj (K.toMQ obj.spec)).calls = calls at ensured
  generalize (K.ensure admin obj (K.toMQ obj.spec)).value = result at ensured failed
  cases ensured with
  | getFailed e' failure other =>
    cases failed
    exact .get obj read admin gate text formatted e failure other
  | keysFailed e' reads readOnly answered unresolved =>
    cases failed
    exact .keys obj read admin gate text formatted e answered unresolved
  | defineFailed keys e' reads readOnly answered resolved acting needed permitted failure =>
    cases failed
    refine .define obj read admin gate text formatted e ?_ failure
    rw [made]
    exact List.mem_append_right _ (List.mem_singleton.mpr rfl)
  | _ => cases failed

theorem Excused.mono {written more : List (Call K.Spec K.MQSpec)} (excused : Excused K env obj written)
    (longer : ∀ call ∈ written, call ∈ more) : Excused K env obj more := by
  cases excused with
  | suspended asked => exact .suspended asked
  | finalizerAdded absent added accepted => exact .finalizerAdded absent (longer _ added) accepted
  | finalizerGone deleting gone =>
    refine .finalizerGone deleting (gone.imp_right ?_)
    rintro ⟨patched, removed, accepted⟩
    exact ⟨patched, longer _ removed, accepted⟩
  | terminal e met terminal lasting => exact .terminal e met terminal lasting

theorem Ends.after_mq {before written : List (Call K.Spec K.MQSpec)} {result : Reconciled}
    (ends : Ends K env obj written result) (onlyMQ : ∀ call ∈ before, call.isMQ = true) :
    Ends K env obj (before ++ written) result := by
  have same : failedWrites env 0 (before ++ written) = failedWrites env 0 written := by
    induction before with
    | nil => rfl
    | cons call rest ih =>
      have first := onlyMQ call List.mem_cons_self
      have others := ih fun call member => onlyMQ call (List.mem_cons_of_mem _ member)
      cases call <;> first | exact others | cases first
  refine ⟨?_, fun silent => (ends.excused silent).mono fun call => List.mem_append_right _⟩
  rw [same]
  exact ends.surfaces

theorem ensureAndReport_ends (read : env.object = .found obj) (admin : Admin K.MQSpec K.State)
    (unsuspended : workloadSuspended obj = false) (live : obj.metadata.deletionTimestamp = none)
    (finalizer : K.finalizer ∈ obj.metadata.finalizers) (reaches : Reaches K env obj admin) :
    Ends K env obj (writes (ensureAndReport K env obj admin)) (ensureAndReport K env obj admin).value := by
  unfold ensureAndReport
  cases supported : K.unsupported obj.spec with
  | some e => exact setSyncedError_only (.unsupported obj read admin unsuspended live finalizer reaches e supported) obj none
  | none =>
    have gate : EnsureGate K env obj admin := ⟨unsuspended, live, finalizer, reaches, supported⟩
    cases formatted : K.format (K.toMQ obj.spec) with
    | error e => exact setSyncedError_only (.format obj read admin gate e formatted) obj none
    | ok text =>
      have same := K.ensure_congr admin { obj with status := { obj.status with desiredMQSC := text } } obj (K.toMQ obj.spec)
        rfl rfl rfl
      simp only [writes_bind, Traced.value_bind, same]
      refine (reportEnsure_ends _ _ fun e failed => ?_).after_mq ?_
      · exact ensure_failed_met read gate formatted failed
      · intro call member
        exact ensure_calls_isMQ admin _ call (List.mem_of_mem_filter member)

theorem handleDeletion_ends (read : env.object = .found obj) (admin : Admin K.MQSpec K.State)
    (gate : DeleteGate K env obj admin) :
    Ends K env obj (writes (handleDeletion K env obj admin)) (handleDeletion K env obj admin).value := by
  unfold handleDeletion patchSyncedDeleting
  simp only [writes_bind, writes_patchSyncedStatus, value_patchSyncedStatus, Traced.value_bind]
  cases answer : (env.statusUpdate 0).err with
  | some failure =>
    refine .of_failure ?_ ⟨failure, rfl, mem_chain failure⟩
    simp [failedWrites, answer]
  | none =>
    have accepted : ∀ patched rest, failedWrites env 0 (.statusUpdate patched :: .delete (K.toMQ obj.spec) :: rest) =
        failedWrites env 1 rest := by
      intro patched rest
      rw [failedWrites, answer]
      rfl
    simp only [writes_bind, writes_call, Traced.value_call, Call.isWrite, if_true, Traced.value_bind]
    cases outcome : (admin.delete (K.toMQ obj.spec)).err with
    | some e =>
      have reported := (WriteAnswer.err_eq_none_iff _).mp answer
      have met : Met K env e := .delete obj read admin gate reported e outcome
      rw [show (applyPatch env.now obj (reportPatch reasonDeleting K.deletingMessage none true)).spec = obj.spec from rfl,
        outcome]
      apply setSyncedError_ends met
      rw [writes_setSyncedError K]
      exact (accepted _ _).trans (List.append_nil _)
    | none =>
      rw [show (applyPatch env.now obj (reportPatch reasonDeleting K.deletingMessage none true)).spec = obj.spec from rfl,
        outcome]
      refine .of_last env.update (fun e => ⟨0, e.map (.wrapped "remove finalizer")⟩) ?_ ?_ ?_
      · exact (accepted _ _).trans (List.append_nil _)
      · exact fun e => ⟨_, rfl, List.mem_cons_of_mem _ (mem_chain e)⟩
      · intro removed _
        exact .finalizerGone gate.deleting
          (.inr ⟨_, List.mem_append_right _ (List.mem_append_right _ List.mem_cons_self), removed⟩)

theorem orphanFinalizeWorkload_ends (deleting : obj.metadata.deletionTimestamp.isSome = true) (message : String) :
    Ends K env obj (writes (orphanFinalizeWorkload env obj K.finalizer message))
      (orphanFinalizeWorkload env obj K.finalizer message).value := by
  unfold orphanFinalizeWorkload patchSyncedOrphaned
  simp only [writes_bind, writes_patchSyncedStatus, value_patchSyncedStatus, Traced.value_bind]
  cases answer : (env.statusUpdate 0).err with
  | some failure =>
    refine .of_failure ?_ ⟨failure, rfl, mem_chain failure⟩
    simp [failedWrites, answer]
  | none =>
    refine .of_last env.update (fun e => ⟨0, e⟩) ?_ (fun e => ⟨e, rfl, mem_chain e⟩) ?_
    · simp [failedWrites, answer, Call.isWrite]
    · intro removed _
      exact .finalizerGone deleting (.inr ⟨_, List.mem_append_right _ List.mem_cons_self, removed⟩)

theorem reconcileWorkloadSuspended_ends (asked : workloadSuspended obj = true) :
    Ends K env obj (writes (reconcileWorkloadSuspended env obj)) (reconcileWorkloadSuspended env obj).value := by
  unfold reconcileWorkloadSuspended patchSyncedSuspended
  split
  · exact ⟨fun _ absent => absurd absent List.not_mem_nil, fun _ => .suspended asked⟩
  · simp only [writes_bind, writes_patchSyncedStatus, value_patchSyncedStatus, Traced.value_bind, writes_pure]
    exact .of_last (env.statusUpdate 0) (fun e => ⟨0, e⟩) (by simp [failedWrites]) (fun e => ⟨e, rfl, mem_chain e⟩)
      fun _ _ => .suspended asked

theorem deletionAwaitingConnection_ends (e : MqError) :
    Ends K env obj (writes (deletionAwaitingConnection env obj e)) (deletionAwaitingConnection env obj e).value := by
  rw [value_deletionAwaitingConnection]
  unfold deletionAwaitingConnection patchSyncedProgressing
  simp only [writes_bind, writes_patchSyncedStatus, writes_pure]
  refine .of_last (env.statusUpdate 0) (fun e => ⟨env.intervals.connectionWait, e⟩) (by simp [failedWrites])
    (fun e => ⟨e, rfl, mem_chain e⟩) fun _ silent => ?_
  exact absurd (congrArg Reconciled.requeueAfter silent) (Nat.ne_of_gt env.intervals.connectionWait_pos)

theorem reach_ends (read : env.object = .found obj) (engages : Engages K obj)
    (failed : MqError → Traced (Call K.Spec K.MQSpec) Reconciled)
    (next : Admin K.MQSpec K.State → Traced (Call K.Spec K.MQSpec) Reconciled)
    (failedEnds : ∀ e, Met K env e → Ends K env obj (writes (failed e)) (failed e).value)
    (nextEnds : ∀ admin, Reaches K env obj admin → Ends K env obj (writes (next admin)) (next admin).value) :
    Ends K env obj (writes (reachPort env obj failed next)) (reachPort env obj failed next).value := by
  unfold reachPort
  simp only [writes_bind, writes_resolveConnection, List.nil_append, Traced.value_bind]
  cases lookup : (resolveConnection env obj).value with
  | error e => exact failedEnds e (.connection obj read engages e lookup)
  | ok conn =>
    have found := resolveConnection_ok K env obj lookup
    simp only [writes_bind, Traced.value_bind]
    rcases @waitForConnectionReady_ends _ K env obj conn with ⟨ready, silent, goes⟩ | ⟨result, stops, waits⟩
    · simp only [silent, goes, List.nil_append, writes_bind, writes_forConnection, Traced.value_bind]
      cases port : (forConnection env conn).value with
      | error e => exact failedEnds e (.port obj read engages conn found ready e port)
      | ok admin => exact nextEnds admin ⟨conn, found, ready, port⟩
    · simpa only [stops, writes_pure, List.append_nil, Traced.value_pure] using waits

theorem reconcileWorkload_ends (read : env.object = .found obj) :
    Ends K env obj (writes (reconcileWorkload K env obj)) (reconcileWorkload K env obj).value := by
  cases suspended : workloadSuspended obj with
  | true =>
    rw [reconcileWorkload, if_pos suspended]
    exact reconcileWorkloadSuspended_ends suspended
  | false =>
    cases deleting : obj.metadata.deletionTimestamp with
    | none =>
      have engages : Engages K obj := ⟨suspended, fun absurdity => by rw [deleting] at absurdity; cases absurdity⟩
      rw [reconcileWorkload_live suspended deleting]
      refine reach_ends read engages _ _ (fun e met => setSyncedError_only met obj none) fun admin reaches => ?_
      by_cases present : K.finalizer ∈ obj.metadata.finalizers
      · simp only [containsFinalizer, present, decide_true, if_true]
        exact ensureAndReport_ends read admin suspended deleting present reaches
      · simp only [containsFinalizer, present, decide_false, Bool.false_eq_true, if_false]
        exact .of_last env.update (fun e => ⟨0, e.map (.wrapped "add finalizer")⟩) (List.append_nil _)
          (fun e => ⟨_, rfl, List.mem_cons_of_mem _ (mem_chain e)⟩)
          fun accepted _ => .finalizerAdded present List.mem_cons_self accepted
    | some time =>
      have gone : obj.metadata.deletionTimestamp.isSome = true := by rw [deleting]; rfl
      by_cases present : K.finalizer ∈ obj.metadata.finalizers
      · cases requested : orphanDeletionRequested obj with
        | true =>
          have carries : containsFinalizer obj K.finalizer = true := decide_eq_true present
          rw [reconcileWorkload, if_neg (by rw [suspended]; decide), if_pos gone, reconcileWorkloadDeletion,
            if_neg (by rw [carries]; decide), if_pos requested]
          exact orphanFinalizeWorkload_ends gone _
        | false =>
          rw [reconcileWorkload_deleting suspended gone present requested]
          exact reach_ends read ⟨suspended, fun _ => ⟨present, requested⟩⟩ _ _
            (fun e _ => deletionAwaitingConnection_ends e)
            fun admin reaches => handleDeletion_ends read admin ⟨suspended, gone, present, requested, reaches⟩
      · have lacks : containsFinalizer obj K.finalizer = false := decide_eq_false present
        rw [reconcileWorkload, if_neg (by rw [suspended]; decide), if_pos gone, reconcileWorkloadDeletion,
          if_pos (by rw [lacks]; decide)]
        exact ⟨fun _ absent => absurd absent List.not_mem_nil, fun _ => .finalizerGone gone (.inl present)⟩

end Ends

section Met

variable [UnicodeTables] {K : Kind} {env : Env K.Spec K.MQSpec K.State} {obj : Workload K.Spec}

theorem engaged_handled (read : env.object = .found obj) (engages : Engages K obj) {e : MqError}
    (stops : ∀ failed next, (reachPort env obj failed next).value = (failed e).value) :
    Handled env e (reconcile K env).value := by
  rw [reconcile_of_read read]
  cases deleting : obj.metadata.deletionTimestamp with
  | none =>
    rw [reconcileWorkload_live engages.1 deleting, stops]
    exact setSyncedError_handled env 0 obj e none
  | some time =>
    have gone : obj.metadata.deletionTimestamp.isSome = true := by rw [deleting]; rfl
    obtain ⟨finalizer, kept⟩ := engages.2 gone
    rw [reconcileWorkload_deleting engages.1 gone finalizer kept, stops, value_deletionAwaitingConnection]
    exact handled_of_delay env env.intervals.connectionWait_pos

theorem ensured_handled (read : env.object = .found obj) {admin : Admin K.MQSpec K.State} (gate : EnsureGate K env obj admin)
    {text : String} (formatted : K.format (K.toMQ obj.spec) = .ok text) {e : MqError}
    (failed : (K.ensure admin obj (K.toMQ obj.spec)).value.err = some (.failed e)) :
    Handled env e (reconcile K env).value := by
  have value := value_reconcile_ensure read gate.unsuspended gate.live gate.finalizer gate.reaches
  have same := K.ensure_congr admin { obj with status := { obj.status with desiredMQSC := text } } obj (K.toMQ obj.spec)
    rfl rfl rfl
  rw [value, ensureAndReport, gate.supported, formatted]
  simp only [Traced.value_bind, same, reportEnsure, failed]
  exact setSyncedError_handled env 0 _ e _

theorem Met.handled (kubernetes : KubernetesErrors env) {e : MqError} (met : Met K env e) :
    Handled env e (reconcile K env).value := by
  cases met with
  | object _ unread =>
    rw [reconcile, unread]
    exact handled_of_returns env (kubernetes.object e unread) ⟨_, rfl, List.mem_cons_of_mem _ (mem_chain e)⟩
  | write _ refused =>
    refine handled_of_returns env (kubernetes.write refused) ?_
    cases read : env.object with
    | notFound cause =>
      rw [reconcile, read] at refused
      exact absurd refused List.not_mem_nil
    | failed cause =>
      rw [reconcile, read] at refused
      exact absurd refused List.not_mem_nil
    | found obj =>
      rw [reconcile_of_read read] at refused ⊢
      apply (reconcileWorkload_ends read).surfaces e
      rwa [writes, failedWrites_filter]
  | connection obj read engages _ unresolved =>
    refine engaged_handled read engages fun failed next => ?_
    rw [reachPort, Traced.value_bind, unresolved]
  | port obj read engages conn found ready _ refused =>
    refine engaged_handled read engages fun failed next => ?_
    have resolved : (resolveConnection env obj).value = .ok conn := by
      simp only [resolveConnection, found]
      rfl
    have waits : (waitForConnectionReady env obj conn).value = none := by
      rw [waitForConnectionReady, if_pos ready]
      rfl
    simp only [reachPort, Traced.value_bind, resolved, waits, forConnection, refused, Traced.value_call]
  | unsupported obj read admin unsuspended live finalizer reaches _ refused =>
    have value := value_reconcile_ensure read unsuspended live finalizer reaches
    rw [value, ensureAndReport, refused]
    exact setSyncedError_handled env 0 obj e none
  | format obj read admin gate _ refused =>
    have value := value_reconcile_ensure read gate.unsuspended gate.live gate.finalizer gate.reaches
    rw [value, ensureAndReport, gate.supported, refused]
    exact setSyncedError_handled env 0 obj e none
  | get obj read admin gate text formatted _ failed other =>
    exact ensured_handled read gate formatted (ensure_getFailed obj failed other)
  | keys obj read admin gate text formatted _ answered failed =>
    exact ensured_handled read gate formatted (ensure_keysFailed obj answered failed)
  | define obj read admin gate text formatted _ called failed =>
    exact ensured_handled read gate formatted (ensure_defineFailed obj called failed)
  | delete obj read admin gate reported _ failed =>
    rw [value_reconcile_deletion read gate]
    have accepted := (WriteAnswer.err_eq_none_iff _).mpr reported
    have failed' : (admin.delete (K.toMQ (applyPatch env.now obj (reportPatch reasonDeleting K.deletingMessage none
      true)).spec)).err = some e := failed
    unfold handleDeletion patchSyncedDeleting
    simp only [Traced.value_bind, value_patchSyncedStatus, accepted, Traced.value_call, failed']
    exact setSyncedError_handled env 1 _ e none

/-- A reconcile that neither returns an error nor asks to be run again has a reason to wait for a change, and every error
that it meets is retried, returned, or terminal. -/
theorem no_silent_wedge (K : Kind) (env : Env K.Spec K.MQSpec K.State) (kubernetes : KubernetesErrors env) :
    (∀ obj, env.object = .found obj → (reconcile K env).value = ⟨0, none⟩ →
      Excused K env obj (writes (reconcile K env))) ∧
    ∀ e, Met K env e → Handled env e (reconcile K env).value := by
  refine ⟨fun obj read silent => ?_, fun e met => met.handled kubernetes⟩
  rw [reconcile_of_read read] at silent ⊢
  exact (reconcileWorkload_ends read).excused silent

end Met

section Cases

attribute [local instance] asciiTables

def refusingFactory (e : MqError) : Env Api.QueueSpec MqAdmin.QueueSpec QueueState where
  now := 200
  intervals := ⟨1, 1, 1, Nat.one_pos, Nat.one_pos, Nat.one_pos⟩
  object := .found (ordersQueue none)
  connection name := .found (readyConnection name)
  forConnection _ := .error e
  statusUpdate _ := .ok
  update := .ok

theorem refusingFactory_kubernetes (e : MqError) : KubernetesErrors (refusingFactory e) where
  object _ failed := by cases failed
  status _ _ failed := by cases failed
  update _ failed := by cases failed

theorem no_silent_wedge_refusingFactory :
    (reconcile queueReconciler (refusingFactory (.terminal .invalidSpec "bad endpoint"))).value = ⟨0, none⟩ ∧
      Excused queueReconciler (refusingFactory (.terminal .invalidSpec "bad endpoint")) (ordersQueue none)
        (writes (reconcile queueReconciler (refusingFactory (.terminal .invalidSpec "bad endpoint")))) ∧
      Handled (refusingFactory (.transient "busy")) (.transient "busy")
        (reconcile queueReconciler (refusingFactory (.transient "busy"))).value := by
  have silent : (reconcile queueReconciler (refusingFactory (.terminal .invalidSpec "bad endpoint"))).value = ⟨0, none⟩ := rfl
  refine ⟨silent, ?_, ?_⟩
  · exact (no_silent_wedge queueReconciler _ (refusingFactory_kubernetes _)).1 (ordersQueue none) rfl silent
  · apply (no_silent_wedge queueReconciler _ (refusingFactory_kubernetes _)).2
    exact .port (ordersQueue none) rfl ⟨rfl, fun deleting => by cases deleting⟩ (readyConnection "qm1") rfl rfl _ rfl

end Cases

end MKurator.Controller
