import MKurator.Controller.Kinds
import MKurator.Controller.Requeue

/-! What a reconcile writes into `status.mqObjectExists`, and whether GET said so. -/

namespace MKurator.Controller
open MKurator.Api MKurator.MqAdmin MKurator.Lib MKurator.Lib.Strings

section Keeping

variable {σ μ τ α β : Type} {env : Env σ μ τ} {obj : Workload σ}

def KeepsExists (obj : Workload σ) (out : Traced (Call σ μ) α) : Prop :=
  ∀ written, .statusUpdate written ∈ writes out → written.status.mqObjectExists = obj.status.mqObjectExists

theorem KeepsExists.pure (a : α) : KeepsExists (μ := μ) obj (Pure.pure a) := fun _ member => nomatch member

theorem KeepsExists.bind {x : Traced (Call σ μ) α} {next : α → Traced (Call σ μ) β} (first : KeepsExists obj x)
    (second : KeepsExists obj (next x.value)) : KeepsExists obj (x >>= next) := by
  intro written member
  rw [writes_bind] at member
  rcases List.mem_append.mp member with here | there
  · exact first written here
  · exact second written there

theorem KeepsExists.of_silent {out : Traced (Call σ μ) α} (silent : writes out = []) : KeepsExists obj out := by
  intro written member
  rw [silent] at member
  cases member

theorem KeepsExists.call {c : Call σ μ} {answer : α} (other : ∀ written, c ≠ .statusUpdate written) :
    KeepsExists obj (Traced.call c answer) := by
  intro written member
  rw [writes_call] at member
  split at member
  · exact absurd (List.mem_singleton.mp member).symm (other written)
  · cases member

theorem KeepsExists.event {warning : Bool} {reason message : String} :
    KeepsExists (μ := μ) obj (Traced.call (.event warning reason message) ()) :=
  .call (by intro _ same; cases same)

theorem KeepsExists.update {new : Workload σ} {answer : WriteAnswer} :
    KeepsExists (μ := μ) obj (Traced.call (.update new) answer) :=
  .call (by intro _ same; cases same)

theorem KeepsExists.delete {spec : μ} {answer : DeleteAnswer} : KeepsExists obj (Traced.call (.delete spec) answer) :=
  .call (by intro _ same; cases same)

theorem KeepsExists.report {n : Nat} {reason message : String} {emitEvent : Bool} :
    KeepsExists obj (patchSyncedStatus env n obj (reportPatch reason message none emitEvent)) := by
  intro written member
  rw [writes_patchSyncedStatus] at member
  cases List.mem_singleton.mp member
  rfl

theorem KeepsExists.suspended : KeepsExists obj (reconcileWorkloadSuspended env obj) := by
  unfold reconcileWorkloadSuspended
  split
  · exact .pure _
  · exact .bind .report (.pure _)

theorem KeepsExists.orphanFinalizeWorkload (finalizer message : String) :
    KeepsExists obj (orphanFinalizeWorkload env obj finalizer message) := by
  unfold Controller.orphanFinalizeWorkload
  refine .bind .report ?_
  simp only [patchSyncedOrphaned, value_patchSyncedStatus]
  cases (env.statusUpdate 0).err with
  | some e => exact .pure _
  | none =>
    refine .bind .event ?_
    exact .bind .update (.pure _)

variable [UnicodeTables]

theorem KeepsExists.waitForConnectionReady (conn : QueueManagerConnection) :
    KeepsExists obj (waitForConnectionReady env obj conn) := by
  unfold Controller.waitForConnectionReady
  split
  · exact .pure _
  · refine .bind .report ?_
    simp only [patchSyncedProgressing, value_patchSyncedStatus]
    cases (env.statusUpdate 0).err with
    | some e => exact .pure _
    | none => exact .pure _

end Keeping

section Runs

variable (K : Kind) (env : Env K.Spec K.MQSpec K.State) (obj : Workload K.Spec)

structure EnsureRuns (admin : Admin K.MQSpec K.State) : Prop extends EnsureGate K env obj admin where
  formatted : ∃ text, K.format (K.toMQ obj.spec) = .ok text

variable {K env obj}

theorem EnsureRuns.unique {admin other : Admin K.MQSpec K.State} (runs : EnsureRuns K env obj admin)
    (again : EnsureRuns K env obj other) : admin = other := by
  have first := (reaches_iff K env obj admin).mp runs.reaches
  have second := (reaches_iff K env obj other).mp again.reaches
  exact Option.some.inj (first.symm.trans second)

end Runs

section Paths

variable [UnicodeTables] {K : Kind} {env : Env K.Spec K.MQSpec K.State} {obj : Workload K.Spec}

theorem keepsExists_setSyncedError {n : Nat} {patched : Workload K.Spec} {e : MqError}
    (kept : patched.status.mqObjectExists = obj.status.mqObjectExists) :
    KeepsExists obj (setSyncedError env n patched e none) := by
  intro written member
  rw [writes_setSyncedError] at member
  cases List.mem_singleton.mp member
  exact kept

theorem keepsExists_deletionAwaitingConnection (e : MqError) :
    KeepsExists obj (deletionAwaitingConnection env obj e) := by
  unfold deletionAwaitingConnection
  exact .bind .report (.pure _)

theorem keepsExists_handleDeletion (admin : Admin K.MQSpec K.State) :
    KeepsExists obj (handleDeletion K env obj admin) := by
  unfold handleDeletion
  refine .bind .report ?_
  simp only [patchSyncedDeleting, value_patchSyncedStatus]
  cases (env.statusUpdate 0).err with
  | some e => exact .pure _
  | none =>
    refine .bind .delete ?_
    simp only [Traced.value_call]
    split
    · exact keepsExists_setSyncedError rfl
    · refine .bind .event ?_
      exact .bind .update (.pure _)

theorem keepsExists_reachPort {failed : MqError → Traced (Call K.Spec K.MQSpec) Reconciled}
    {next : Admin K.MQSpec K.State → Traced (Call K.Spec K.MQSpec) Reconciled} (unreached : ∀ e, KeepsExists obj (failed e))
    (reached : ∀ admin, Reaches K env obj admin → KeepsExists obj (next admin)) :
    KeepsExists obj (reachPort env obj failed next) := by
  unfold reachPort
  refine .bind (.of_silent (writes_resolveConnection K env obj)) ?_
  cases lookup : (resolveConnection env obj).value with
  | error e => exact unreached e
  | ok conn =>
    have found := resolveConnection_ok K env obj lookup
    refine .bind (.waitForConnectionReady conn) ?_
    rcases waitForConnectionReady_cases K env obj conn with ⟨ready, -, goes⟩ | ⟨-, result, stops⟩
    · rw [goes]
      refine .bind (.of_silent rfl) ?_
      cases port : (forConnection env conn).value with
      | error e => exact unreached e
      | ok admin => exact reached admin ⟨conn, found, ready, port⟩
    · rw [stops]
      exact .pure _

theorem keepsExists_of_not_runs (idle : ∀ admin, ¬ EnsureRuns K env obj admin) :
    KeepsExists obj (reconcileWorkload K env obj) := by
  cases suspended : workloadSuspended obj with
  | true =>
    rw [reconcileWorkload, if_pos suspended]
    exact .suspended
  | false =>
    cases deleting : obj.metadata.deletionTimestamp with
    | none =>
      rw [reconcileWorkload_live suspended deleting]
      refine keepsExists_reachPort (fun e => keepsExists_setSyncedError rfl) fun admin reaches => ?_
      by_cases finalizer : K.finalizer ∈ obj.metadata.finalizers
      · have present : containsFinalizer obj K.finalizer = true := decide_eq_true finalizer
        rw [if_pos present, ensureAndReport]
        cases supported : K.unsupported obj.spec with
        | some e => exact keepsExists_setSyncedError rfl
        | none =>
          cases formatted : K.format (K.toMQ obj.spec) with
          | error e => exact keepsExists_setSyncedError rfl
          | ok text => exact absurd ⟨⟨suspended, deleting, finalizer, reaches, supported⟩, text, formatted⟩ (idle admin)
      · have missing : ¬ containsFinalizer obj K.finalizer = true := mt of_decide_eq_true finalizer
        rw [if_neg missing]
        exact .bind .update (.pure _)
    | some time =>
      have deleted : obj.metadata.deletionTimestamp.isSome = true := by
        rw [deleting]
        rfl
      rw [reconcileWorkload, if_neg (by rw [suspended]; decide), if_pos deleted, reconcileWorkloadDeletion]
      split
      · exact .pure _
      · split
        · exact .orphanFinalizeWorkload _ _
        · exact keepsExists_reachPort keepsExists_deletionAwaitingConnection fun admin _ =>
            keepsExists_handleDeletion admin

def EnsureResult.reportedExists (out : EnsureResult) : Bool :=
  match out.err, out.drift with
  | none, none => true
  | _, _ => out.mqExists

theorem writes_reachPort {failed : MqError → Traced (Call K.Spec K.MQSpec) Reconciled}
    {next : Admin K.MQSpec K.State → Traced (Call K.Spec K.MQSpec) Reconciled} {admin : Admin K.MQSpec K.State}
    (reaches : Reaches K env obj admin) : writes (reachPort env obj failed next) = writes (next admin) := by
  obtain ⟨conn, found, ready, port⟩ := reaches
  have resolved : (resolveConnection env obj).value = .ok conn := by
    simp only [resolveConnection, found]
    rfl
  have waits : waitForConnectionReady env obj conn = pure none := by
    rw [waitForConnectionReady, if_pos ready]
  simp only [reachPort, writes_bind, writes_resolveConnection, resolved, waits, writes_pure, Traced.value_pure,
    forConnection, port, Traced.value_call, writes_call, List.nil_append, Call.isWrite]
  rfl

theorem EnsureRuns.writes_eq {admin : Admin K.MQSpec K.State} (runs : EnsureRuns K env obj admin) :
    ∃ written, writes (reconcileWorkload K env obj) =
        (K.ensure admin obj (K.toMQ obj.spec)).calls.filter Call.isWrite ++ [.statusUpdate written] ∧
      written.status.mqObjectExists = some (K.ensure admin obj (K.toMQ obj.spec)).value.reportedExists := by
  obtain ⟨text, formatted⟩ := runs.formatted
  have present : containsFinalizer obj K.finalizer = true := decide_eq_true runs.finalizer
  have ensured : K.ensure admin { obj with status := { obj.status with desiredMQSC := text } } (K.toMQ obj.spec) =
      K.ensure admin obj (K.toMQ obj.spec) := K.ensure_congr admin _ _ _ rfl rfl rfl
  rw [reconcileWorkload_live runs.unsuspended runs.live, writes_reachPort runs.reaches, if_pos present, ensureAndReport,
    runs.supported]
  simp only [formatted, writes_bind, ensured, writes_reportEnsure]
  refine ⟨_, rfl, ?_⟩
  rcases (K.ensure admin obj (K.toMQ obj.spec)).value with ⟨mqExists, _ | message, _ | (block | e)⟩ <;> rfl

end Paths

section Answers

variable (K : Kind) (obj : Workload K.Spec)

/-- The port answers what the ensure step asks it: GET, the drift-check keys of an object that is there, and the write of
one that is not with the truth about whether it took effect. -/
structure Forthcoming (admin : Admin K.MQSpec K.State) : Prop where
  get : K.GetAnswered admin (K.toMQ obj.spec)
  keys : (K.observed admin (K.toMQ obj.spec)).isSome = true → ∃ keys, K.driftKeys admin (K.toMQ obj.spec) = .ok keys
  define : K.observed admin (K.toMQ obj.spec) = none → isObserveOnly obj = false →
    (∃ keys, K.driftKeys admin (K.toMQ obj.spec) = .ok keys) → ∀ e, admin.define (K.toMQ obj.spec) ≠ .lost e

variable {K obj}

theorem adoptionBlock_of_absent (keys : List String) (spec : K.MQSpec) : K.adoptionBlock keys obj spec none = none := by
  rw [KindBase.adoptionBlock, adoptionBlockForExisting_eq_none_iff]
  exact .inr (.inl rfl)

theorem define_not_read {reads : List (Call K.Spec K.MQSpec)} (readOnly : ∀ call ∈ reads, call.isMQRead = true)
    (spec : K.MQSpec) : .define spec ∉ reads := fun member => nomatch readOnly _ member

theorem Forthcoming.absent {admin : Admin K.MQSpec K.State} (told : Forthcoming K obj admin)
    (missing : (K.ensure admin obj (K.toMQ obj.spec)).value.reportedExists = false) :
    K.observed admin (K.toMQ obj.spec) = none ∧ (.define (K.toMQ obj.spec) ∈ (K.ensure admin obj (K.toMQ obj.spec)).calls →
      (admin.define (K.toMQ obj.spec)).applied = false) := by
  have ensured := K.ensure_cases admin obj (K.toMQ obj.spec)
  generalize (K.ensure admin obj (K.toMQ obj.spec)).calls = calls at ensured
  generalize (K.ensure admin obj (K.toMQ obj.spec)).value = result at ensured missing
  cases ensured with
  | getFailed e failure other =>
    rw [told.get e failure] at other
    cases other
  | keysFailed e reads readOnly answered unresolved =>
    refine ⟨?_, fun called => absurd called (define_not_read readOnly _)⟩
    by_contra there
    obtain ⟨keys, resolved⟩ := told.keys (Option.isSome_iff_ne_none.mpr there)
    rw [unresolved] at resolved
    cases resolved
  | blocked keys block reads readOnly =>
    exact ⟨Option.isSome_eq_false_iff.mp missing |> Option.isNone_iff_eq_none.mp,
      fun called => absurd called (define_not_read readOnly _)⟩
  | drifted keys message reads readOnly =>
    exact ⟨Option.isSome_eq_false_iff.mp missing |> Option.isNone_iff_eq_none.mp,
      fun called => absurd called (define_not_read readOnly _)⟩
  | inSync keys reads readOnly => cases missing
  | defineFailed keys e reads readOnly answered resolved acting needed permitted failure =>
    have absent := Option.isNone_iff_eq_none.mp (Option.isSome_eq_false_iff.mp missing)
    refine ⟨absent, fun _ => ?_⟩
    have reported := told.define absent acting ⟨keys, resolved⟩
    cases answer : admin.define (K.toMQ obj.spec) with
    | ok =>
      rw [answer] at failure
      cases failure
    | failed e' => rfl
    | lost e' => exact absurd answer (reported e')
  | defined keys reads readOnly => cases missing

theorem reportedExists_of_blind (obj : Workload K.Spec) {admin : Admin K.MQSpec K.State} {spec : K.MQSpec}
    (blind : ∀ keys, K.GetAnswered admin spec → K.driftKeys admin spec ≠ .ok keys) :
    (K.ensure admin obj spec).value.reportedExists = false := by
  have ensured := K.ensure_cases admin obj spec
  generalize (K.ensure admin obj spec).calls = calls at ensured
  generalize (K.ensure admin obj spec).value = result at ensured ⊢
  cases ensured with
  | getFailed e failure other => rfl
  | keysFailed e reads readOnly answered unresolved => rfl
  | blocked keys block reads readOnly answered resolved => exact absurd resolved (blind keys answered)
  | drifted keys message reads readOnly answered resolved => exact absurd resolved (blind keys answered)
  | inSync keys reads readOnly answered resolved => exact absurd resolved (blind keys answered)
  | defineFailed keys e reads readOnly answered resolved => exact absurd resolved (blind keys answered)
  | defined keys reads readOnly answered resolved => exact absurd resolved (blind keys answered)

theorem ensure_of_lost {admin : Admin K.MQSpec K.State} {spec : K.MQSpec} {keys : List String} {e : MqError}
    (answered : K.GetAnswered admin spec) (absent : K.observed admin spec = none) (acting : isObserveOnly obj = false)
    (resolved : K.driftKeys admin spec = .ok keys) (lost : admin.define spec = .lost e) :
    (K.ensure admin obj spec).value.reportedExists = false ∧ .define spec ∈ (K.ensure admin obj spec).calls := by
  have ensured := K.ensure_cases admin obj spec
  generalize (K.ensure admin obj spec).calls = calls at ensured ⊢
  generalize (K.ensure admin obj spec).value = result at ensured ⊢
  cases ensured with
  | getFailed e' failure other =>
    rw [answered e' failure] at other
    cases other
  | keysFailed e' reads readOnly answered' unresolved =>
    rw [resolved] at unresolved
    cases unresolved
  | blocked keys' block reads readOnly answered' resolved' refused =>
    rw [absent, adoptionBlock_of_absent] at refused
    cases refused
  | drifted keys' message reads readOnly answered' resolved' observing =>
    rw [acting] at observing
    cases observing
  | inSync keys' reads readOnly answered' resolved' unneeded =>
    rw [absent] at unneeded
    cases unneeded
  | defineFailed keys' e' reads =>
    rw [absent]
    exact ⟨rfl, List.mem_append_right _ List.mem_cons_self⟩
  | defined keys' reads readOnly answered' resolved' acting' needed permitted success =>
    rw [lost] at success
    cases success

end Answers

section Observation

variable [UnicodeTables] (K : Kind) (env : Env K.Spec K.MQSpec K.State) (obj : Workload K.Spec)

/-- GET answered that the object does not exist, and the reconcile has not created it since. -/
structure SeenAbsent (admin : Admin K.MQSpec K.State) : Prop where
  answered : K.GetAnswered admin (K.toMQ obj.spec)
  absent : K.observed admin (K.toMQ obj.spec) = none
  uncreated : .define (K.toMQ obj.spec) ∈ (reconcileWorkload K env obj).calls →
    (admin.define (K.toMQ obj.spec)).applied = false

/-- `mqObjectExists` becomes false only after GET has said so, and stays as it was when GET fails. -/
structure TellsLastObservation : Prop where
  absent : ∀ written, .statusUpdate written ∈ (reconcileWorkload K env obj).calls →
    written.status.mqObjectExists = some false → obj.status.mqObjectExists ≠ some false →
      ∃ admin, EnsureRuns K env obj admin ∧ SeenAbsent K env obj admin
  unanswered : ∀ written, .statusUpdate written ∈ (reconcileWorkload K env obj).calls →
    ∀ admin, EnsureRuns K env obj admin → ¬ K.GetAnswered admin (K.toMQ obj.spec) →
      written.status.mqObjectExists = obj.status.mqObjectExists

variable {K env obj}

theorem EnsureRuns.written {admin : Admin K.MQSpec K.State} (runs : EnsureRuns K env obj admin) :
    ∃ written, .statusUpdate written ∈ (reconcileWorkload K env obj).calls ∧
      written.status.mqObjectExists = some (K.ensure admin obj (K.toMQ obj.spec)).value.reportedExists := by
  obtain ⟨written, all, reported⟩ := runs.writes_eq
  refine ⟨written, ?_, reported⟩
  rw [mem_writes rfl, all]
  exact List.mem_append_right _ List.mem_cons_self

theorem EnsureRuns.of_written {admin : Admin K.MQSpec K.State} (runs : EnsureRuns K env obj admin)
    {written : Workload K.Spec} (member : .statusUpdate written ∈ (reconcileWorkload K env obj).calls) :
    written.status.mqObjectExists = some (K.ensure admin obj (K.toMQ obj.spec)).value.reportedExists := by
  obtain ⟨last, all, reported⟩ := runs.writes_eq
  rw [mem_writes rfl, all] at member
  rcases List.mem_append.mp member with own | here
  · have reached := ensure_calls_isMQ admin (K.toMQ obj.spec) _ (List.mem_filter.mp own).1
    cases reached
  · cases List.mem_singleton.mp here
    exact reported

theorem EnsureRuns.define_iff {admin : Admin K.MQSpec K.State} (runs : EnsureRuns K env obj admin) (spec : K.MQSpec) :
    .define spec ∈ (reconcileWorkload K env obj).calls ↔ .define spec ∈ (K.ensure admin obj (K.toMQ obj.spec)).calls := by
  obtain ⟨last, all, -⟩ := runs.writes_eq
  rw [mem_writes rfl, all, List.mem_append, List.mem_filter]
  constructor
  · rintro (own | here)
    · exact own.1
    · cases List.mem_singleton.mp here
  · exact fun own => .inl ⟨own, rfl⟩

/-- A reconcile tells the last observation exactly when the port answered its ensure step, or false was there before. -/
theorem tellsLastObservation_iff :
    TellsLastObservation K env obj ↔
      obj.status.mqObjectExists = some false ∨ ∀ admin, EnsureRuns K env obj admin → Forthcoming K obj admin := by
  constructor
  · intro tells
    by_cases before : obj.status.mqObjectExists = some false
    · exact .inl before
    refine .inr fun admin runs => ?_
    obtain ⟨written, member, reported⟩ := runs.written
    -- A status that says false has an observation behind it, and there is only one port to make it.
    have behind : (K.ensure admin obj (K.toMQ obj.spec)).value.reportedExists = false → SeenAbsent K env obj admin := by
      intro missing
      rw [missing] at reported
      obtain ⟨other, again, seen⟩ := tells.absent written member reported before
      rwa [runs.unique again]
    have answered : K.GetAnswered admin (K.toMQ obj.spec) := by
      by_contra unanswered
      have missing := reportedExists_of_blind obj fun keys answered _ => unanswered answered
      exact unanswered (behind missing).answered
    refine ⟨answered, ?_, ?_⟩
    · intro there
      cases resolved : K.driftKeys admin (K.toMQ obj.spec) with
      | ok keys => exact ⟨keys, rfl⟩
      | error e =>
        have missing := reportedExists_of_blind obj fun keys _ found => by
          rw [resolved] at found
          cases found
        rw [(behind missing).absent] at there
        cases there
    · intro absent acting ⟨keys, resolved⟩ e lost
      obtain ⟨missing, called⟩ := ensure_of_lost answered absent acting resolved lost
      have uncreated := (behind missing).uncreated ((runs.define_iff _).mpr called)
      rw [lost] at uncreated
      cases uncreated
  · intro condition
    refine ⟨?_, ?_⟩
    · intro written member missing before
      have forthcoming := condition.resolve_left before
      by_cases runs : ∃ admin, EnsureRuns K env obj admin
      · obtain ⟨admin, runs⟩ := runs
        have told := forthcoming admin runs
        rw [runs.of_written member] at missing
        obtain ⟨absent, uncreated⟩ := told.absent (Option.some.inj missing)
        exact ⟨admin, runs, told.get, absent, fun called => uncreated ((runs.define_iff _).mp called)⟩
      · have kept := keepsExists_of_not_runs (not_exists.mp runs) written ((mem_writes rfl).mp member)
        exact absurd (kept.symm.trans missing) before
    · intro written member admin runs unanswered
      rcases condition with before | forthcoming
      · have missing := reportedExists_of_blind obj fun keys answered _ => unanswered answered
        rw [runs.of_written member, missing, before]
      · exact absurd (forthcoming admin runs).get unanswered

end Observation

def unavailablePort : Admin MqAdmin.QueueSpec QueueState where
  get _ := (none, some (.transient "mqweb returned HTTP 503"))
  localDriftKeys := .error (.transient "mqweb returned HTTP 503")
  define _ := .failed (.transient "mqweb returned HTTP 503")
  delete _ := .failed (.transient "mqweb returned HTTP 503")

def knownOrders : Workload Api.QueueSpec :=
  { ordersQueue none with status := { (ordersQueue none).status with mqObjectExists := some true } }

section Cases

attribute [local instance] asciiTables

theorem knownOrders_runs :
    EnsureRuns queueReconciler (readyCluster queueReconciler (.found knownOrders) unavailablePort) knownOrders
      unavailablePort where
  unsuspended := rfl
  live := rfl
  finalizer := List.mem_cons_self
  reaches := ⟨readyConnection "qm1", rfl, rfl, rfl⟩
  supported := rfl
  formatted := ⟨_, rfl⟩

/-- A queue manager that is down makes the status say that the queue does not exist. -/
theorem outage_reported_as_absence :
    ¬ TellsLastObservation queueReconciler (readyCluster queueReconciler (.found knownOrders) unavailablePort)
      knownOrders := by
  intro tells
  obtain ⟨written, member, reported⟩ := knownOrders_runs.written
  have unanswered : ¬ queueReconciler.GetAnswered unavailablePort (queueReconciler.toMQ knownOrders.spec) := by
    intro answered
    cases answered _ rfl
  have kept := tells.unanswered written member unavailablePort knownOrders_runs unanswered
  rw [reported] at kept
  cases kept

end Cases

end MKurator.Controller
