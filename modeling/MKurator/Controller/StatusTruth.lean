import MKurator.Controller.Fleet

/-! Every status that a reconcile writes, and what the `Synced` condition of a stored resource is worth: over any run it
says `True` only on the word of a reconcile that found the object in line, or wrote it and was told so. -/

namespace MKurator.Controller
open MKurator.Api MKurator.MqAdmin MKurator.Lib MKurator.Lib.Strings

section Denials

variable {σ μ τ α β : Type} {env : Env σ μ τ} {obj base : Workload σ}

/-- A status that denies the sync of this generation and leaves the last synced one as it was. -/
structure Denies (obj written : Workload σ) : Prop where
  synced : ∃ c, findCondition written.status.conditions conditionSynced = some c ∧ c.status = .conditionFalse ∧
    c.observedGeneration = obj.metadata.generation
  observedGeneration : written.status.observedGeneration = obj.status.observedGeneration

theorem denies_reportPatch (report : IsReport obj base) (now : Nat) (reason message : String)
    (mqObjectExists : Option Bool) (emitEvent : Bool) :
    Denies obj (applyPatch now base (reportPatch reason message mqObjectExists emitEvent)) := by
  obtain ⟨time, found⟩ := exists_findCondition_setCondition now conditionSynced .conditionFalse reason message
    base.metadata.generation base.status.conditions
  exact ⟨⟨_, found, rfl, congrArg ObjectMeta.generation report.metadata⟩, report.observedGeneration⟩

def OnlyDenies (obj : Workload σ) (out : Traced (Call σ μ) α) : Prop :=
  ∀ written, .statusUpdate written ∈ writes out → Denies obj written

theorem OnlyDenies.of_writes {out : Traced (Call σ μ) α} {calls : List (Call σ μ)} (written : writes out = calls)
    (denials : ∀ patched, .statusUpdate patched ∈ calls → Denies obj patched) : OnlyDenies obj out := by
  intro patched member
  rw [written] at member
  exact denials patched member

theorem OnlyDenies.bind {x : Traced (Call σ μ) α} {next : α → Traced (Call σ μ) β} (first : OnlyDenies obj x)
    (second : OnlyDenies obj (next x.value)) : OnlyDenies obj (x >>= next) := by
  intro written member
  rw [writes_bind] at member
  exact (List.mem_append.mp member).elim (first written) (second written)

theorem OnlyDenies.of_none {out : Traced (Call σ μ) α} (none : ∀ written, .statusUpdate written ∉ writes out) :
    OnlyDenies obj out := fun written member => absurd member (none written)

theorem OnlyDenies.report (report : IsReport obj base) {n : Nat} {reason message : String}
    {mqObjectExists : Option Bool} {emitEvent : Bool} :
    OnlyDenies obj (patchSyncedStatus env n base (reportPatch reason message mqObjectExists emitEvent)) := by
  refine .of_writes (writes_patchSyncedStatus ..) fun patched member => ?_
  cases List.mem_singleton.mp member
  exact denies_reportPatch report ..

theorem OnlyDenies.pure (a : α) : OnlyDenies (μ := μ) obj (Pure.pure a) := .of_none fun _ member => nomatch member

theorem IsReport.refl : IsReport obj obj := ⟨rfl, rfl, rfl⟩

theorem onlyDenies_suspended : OnlyDenies obj (reconcileWorkloadSuspended env obj) := by
  unfold reconcileWorkloadSuspended
  split
  · exact .pure _
  · exact .bind (.report .refl) (.pure _)

theorem onlyDenies_orphanFinalizeWorkload (finalizer message : String) :
    OnlyDenies obj (orphanFinalizeWorkload env obj finalizer message) := by
  unfold orphanFinalizeWorkload
  refine .bind (.report .refl) ?_
  simp only [patchSyncedOrphaned, value_patchSyncedStatus]
  cases (env.statusUpdate 0).err with
  | some e => exact .pure _
  | none => exact .of_none fun written member => by simp [Call.isWrite] at member

variable [UnicodeTables]

theorem onlyDenies_waitForConnectionReady (conn : QueueManagerConnection) :
    OnlyDenies obj (waitForConnectionReady env obj conn) := by
  unfold waitForConnectionReady
  split
  · exact .pure _
  · refine .bind (.report .refl) ?_
    simp only [patchSyncedProgressing, value_patchSyncedStatus]
    cases (env.statusUpdate 0).err with
    | some e => exact .pure _
    | none => exact .pure _

end Denials

section Flow

variable [UnicodeTables] {K : Kind} {env : Env K.Spec K.MQSpec K.State} {obj base : Workload K.Spec}

theorem onlyDenies_setSyncedError (report : IsReport obj base) {n : Nat} {e : MqError} {mqObjectExists : Option Bool} :
    OnlyDenies obj (setSyncedError env n base e mqObjectExists) := by
  refine .of_writes (writes_setSyncedError K env base n e mqObjectExists) fun patched member => ?_
  cases List.mem_singleton.mp member
  exact denies_reportPatch report ..

theorem onlyDenies_handleDeletion (admin : Admin K.MQSpec K.State) : OnlyDenies obj (handleDeletion K env obj admin) := by
  unfold handleDeletion
  refine .bind (.report .refl) ?_
  simp only [patchSyncedDeleting, value_patchSyncedStatus]
  cases (env.statusUpdate 0).err with
  | some e => exact .pure _
  | none =>
    refine .bind (.of_none fun written member => by simp [Call.isWrite] at member) ?_
    simp only [Traced.value_call]
    split
    · exact onlyDenies_setSyncedError (isReport_reportPatch ..)
    · exact .of_none fun written member => by simp [Call.isWrite] at member

theorem onlyDenies_reachPort {failed : MqError → Traced (Call K.Spec K.MQSpec) Reconciled}
    {next : Admin K.MQSpec K.State → Traced (Call K.Spec K.MQSpec) Reconciled} (unreached : ∀ e, OnlyDenies obj (failed e))
    (reached : ∀ admin, Reaches K env obj admin → OnlyDenies obj (next admin)) :
    OnlyDenies obj (reachPort env obj failed next) := by
  unfold reachPort
  refine .bind (.of_writes (writes_resolveConnection K env obj) fun patched member => nomatch member) ?_
  cases lookup : (resolveConnection env obj).value with
  | error e => exact unreached e
  | ok conn =>
    have found := resolveConnection_ok K env obj lookup
    refine .bind (onlyDenies_waitForConnectionReady conn) ?_
    rcases waitForConnectionReady_cases K env obj conn with ⟨ready, -, goes⟩ | ⟨-, result, stops⟩
    · rw [goes]
      refine .bind (.of_none fun written member => nomatch member) ?_
      cases port : (forConnection env conn).value with
      | error e => exact unreached e
      | ok admin => exact reached admin ⟨conn, found, ready, port⟩
    · rw [stops]
      exact .pure _

/-- What stands behind a status that confirms the sync: GET answered, and found the object in line or was followed by a
write that the port answered with success. -/
structure Earned (K : Kind) (env : Env K.Spec K.MQSpec K.State) (obj : Workload K.Spec) : Prop where
  runs : ∃ admin keys, EnsureRuns K env obj admin ∧ Observation K obj admin keys ∧
    (K.needsUpdate keys (K.toMQ obj.spec) (K.observed admin (K.toMQ obj.spec)) = false ∨
      (.define (K.toMQ obj.spec) ∈ (reconcileWorkload K env obj).calls ∧ admin.define (K.toMQ obj.spec) = .ok))

theorem EnsureRuns.writes_report {admin : Admin K.MQSpec K.State} (runs : EnsureRuns K env obj admin) :
    ∃ text, writes (reconcileWorkload K env obj) = (K.ensure admin obj (K.toMQ obj.spec)).calls.filter Call.isWrite ++
      writes (reportEnsure K env { obj with status := { obj.status with desiredMQSC := text } }
        (K.ensure admin obj (K.toMQ obj.spec)).value) := by
  obtain ⟨text, formatted⟩ := runs.formatted
  have present : containsFinalizer obj K.finalizer = true := decide_eq_true runs.finalizer
  have ensured : K.ensure admin { obj with status := { obj.status with desiredMQSC := text } } (K.toMQ obj.spec) =
      K.ensure admin obj (K.toMQ obj.spec) := K.ensure_congr admin _ _ _ rfl rfl rfl
  refine ⟨text, ?_⟩
  rw [reconcileWorkload_live runs.unsuspended runs.live, writes_reachPort runs.reaches, if_pos present, ensureAndReport,
    runs.supported]
  simp only [formatted, writes_bind, ensured]
  rfl

theorem EnsureRuns.status_cases {admin : Admin K.MQSpec K.State} (runs : EnsureRuns K env obj admin)
    {written : Workload K.Spec} (member : .statusUpdate written ∈ writes (reconcileWorkload K env obj)) :
    Denies obj written ∨ (Earned K env obj ∧ ∃ text, written = syncedCopy env.now text obj) := by
  obtain ⟨text, calls⟩ := runs.writes_report
  have defines : .define (K.toMQ obj.spec) ∈ (K.ensure admin obj (K.toMQ obj.spec)).calls →
      .define (K.toMQ obj.spec) ∈ (reconcileWorkload K env obj).calls := by
    intro called
    rw [mem_writes rfl, calls]
    exact List.mem_append_left _ (List.mem_filter.mpr ⟨called, rfl⟩)
  rw [calls, writes_reportEnsure] at member
  rcases List.mem_append.mp member with early | last
  · cases ensure_calls_isMQ admin (K.toMQ obj.spec) _ (List.mem_filter.mp early).1
  have report : IsReport obj { obj with status := { obj.status with desiredMQSC := text } } := ⟨rfl, rfl, rfl⟩
  have same := Call.statusUpdate.inj (List.mem_singleton.mp last)
  have ensured := K.ensure_cases admin obj (K.toMQ obj.spec)
  generalize (K.ensure admin obj (K.toMQ obj.spec)).calls = made at ensured defines
  generalize (K.ensure admin obj (K.toMQ obj.spec)).value = result at ensured same
  cases ensured with
  | inSync keys reads readOnly answered resolved unneeded permitted =>
    exact .inr ⟨⟨admin, keys, runs, ⟨runs.formatted, answered, resolved⟩, .inl unneeded⟩, text, same⟩
  | defined keys reads readOnly answered resolved acting needed permitted success =>
    exact .inr ⟨⟨admin, keys, runs, ⟨runs.formatted, answered, resolved⟩, .inr ⟨defines (by simp), success⟩⟩, text, same⟩
  | _ =>
    rw [same]
    exact .inl (denies_reportPatch report ..)

theorem onlyDenies_live (unsuspended : workloadSuspended obj = false) (live : obj.metadata.deletionTimestamp = none)
    (idle : ∀ admin, ¬EnsureRuns K env obj admin) : OnlyDenies obj (reconcileWorkload K env obj) := by
  rw [reconcileWorkload_live unsuspended live]
  refine onlyDenies_reachPort (fun e => onlyDenies_setSyncedError .refl) fun admin reaches => ?_
  by_cases finalizer : K.finalizer ∈ obj.metadata.finalizers
  · have present : containsFinalizer obj K.finalizer = true := decide_eq_true finalizer
    rw [if_pos present, ensureAndReport]
    cases supported : K.unsupported obj.spec with
    | some e => exact onlyDenies_setSyncedError .refl
    | none =>
      cases formatted : K.format (K.toMQ obj.spec) with
      | error e => exact onlyDenies_setSyncedError .refl
      | ok text => exact absurd ⟨⟨unsuspended, live, finalizer, reaches, supported⟩, text, formatted⟩ (idle admin)
  · have missing : ¬containsFinalizer obj K.finalizer = true := mt of_decide_eq_true finalizer
    rw [if_neg missing]
    exact .of_none fun written member => by simp [Call.isWrite] at member

theorem onlyDenies_deletion : OnlyDenies obj (reconcileWorkloadDeletion K env obj) := by
  unfold reconcileWorkloadDeletion
  split
  · exact .pure _
  · split
    · exact onlyDenies_orphanFinalizeWorkload _ _
    · refine onlyDenies_reachPort (fun e => ?_) fun admin _ => onlyDenies_handleDeletion admin
      exact .bind (.report .refl) (.pure _)

theorem status_cases {written : Workload K.Spec} (member : .statusUpdate written ∈ writes (reconcileWorkload K env obj)) :
    Denies obj written ∨ (Earned K env obj ∧ ∃ text, written = syncedCopy env.now text obj) := by
  by_cases runs : ∃ admin, EnsureRuns K env obj admin
  · obtain ⟨admin, runs⟩ := runs
    exact runs.status_cases member
  refine .inl ?_
  suffices denials : OnlyDenies obj (reconcileWorkload K env obj) from denials written member
  cases suspended : workloadSuspended obj with
  | true =>
    rw [reconcileWorkload, if_pos suspended]
    exact onlyDenies_suspended
  | false =>
    cases deleting : obj.metadata.deletionTimestamp with
    | none => exact onlyDenies_live suspended deleting (not_exists.mp runs)
    | some time =>
      rw [reconcileWorkload, if_neg (by rw [suspended]; decide), if_pos (by rw [deleting]; rfl)]
      exact onlyDenies_deletion

end Flow

section Runs

variable {K : Kind}

theorem World.status_applyWrites (env : Env K.Spec K.MQSpec K.State) (admin : Option (Admin K.MQSpec K.State))
    (target : ObjectAddress K) (calls : List (Call K.Spec K.MQSpec)) {w : World K} (n : Nat) {kept : Workload K.Spec}
    (stays : (World.applyWrites env admin target w n calls).cr = some kept) :
    (∃ before, w.cr = some before ∧ kept.status = before.status) ∨
      ∃ written, .statusUpdate written ∈ calls ∧ kept.status = written.status := by
  induction calls generalizing w n with
  | nil => exact .inl ⟨kept, stays, rfl⟩
  | cons call rest ih =>
    cases call with
    | statusUpdate patched =>
      rcases ih (n + 1) stays with ⟨before, present, same⟩ | ⟨written, member, same⟩
      · unfold World.storeStatus at present
        split at present
        · obtain ⟨old, -, rfl⟩ := Option.map_eq_some_iff.mp present
          exact .inr ⟨patched, List.mem_cons_self, same⟩
        · exact .inl ⟨before, present, same⟩
      · exact .inr ⟨written, List.mem_cons_of_mem _ member, same⟩
    | update new =>
      rcases ih n stays with ⟨before, present, same⟩ | ⟨written, member, same⟩
      · unfold World.storeFinalizers at present
        split at present
        · obtain ⟨old, there, kept⟩ := Option.bind_eq_some_iff.mp present
          rw [retained_eq_some kept] at same
          exact .inl ⟨old, there, same⟩
        · exact .inl ⟨before, present, same⟩
      · exact .inr ⟨written, List.mem_cons_of_mem _ member, same⟩
    | define spec =>
      rcases ih n stays with ⟨before, present, same⟩ | ⟨written, member, same⟩
      · refine .inl ⟨before, ?_, same⟩
        cases admin with
        | none => exact present
        | some port => simpa using present
      · exact .inr ⟨written, List.mem_cons_of_mem _ member, same⟩
    | delete spec =>
      rcases ih n stays with ⟨before, present, same⟩ | ⟨written, member, same⟩
      · refine .inl ⟨before, ?_, same⟩
        cases admin with
        | none => exact present
        | some port => simpa using present
      · exact .inr ⟨written, List.mem_cons_of_mem _ member, same⟩
    | _ =>
      rcases ih n stays with before | ⟨written, member, same⟩
      · exact .inl before
      · exact .inr ⟨written, List.mem_cons_of_mem _ member, same⟩

variable [UnicodeTables]

theorem kept_by_others {w : World K} {act : Act K} (valid : w.Valid act) (others : ∀ env met, act ≠ .reconcile env met)
    {after : Workload K.Spec} (stays : (w.next act).cr = some after) :
    (w.next act).log = w.log ∧ ∃ obj, w.cr = some obj ∧ after.status = obj.status ∧
      ((after.spec = obj.spec ∧ after.metadata.generation = obj.metadata.generation) ∨
        after.metadata.generation = obj.metadata.generation + 1) := by
  cases act with
  | reconcile env met => exact absurd rfl (others env met)
  | edit new =>
    obtain ⟨stored, present, edit⟩ := valid
    obtain rfl : after = new := retained_eq_some ((w.cr_edit new).symm.trans stays)
    exact ⟨(othersStep_edit ⟨stored, present, edit⟩).log, stored, present, edit.status,
      edit.generation.imp_right And.right⟩
  | delete time =>
    obtain ⟨obj, present, stays⟩ := Option.bind_eq_some_iff.mp stays
    obtain rfl := retained_eq_some stays
    exact ⟨rfl, obj, present, rfl, .inr rfl⟩
  | changeMQ mq => exact ⟨rfl, after, stays, rfl, .inl ⟨rfl, rfl⟩⟩
  | changeConnection name manager =>
    exact ⟨othersStep_changeConnection.log, after, (w.cr_changeConnection name manager).symm.trans stays, rfl,
      .inl ⟨rfl, rfl⟩⟩

def EarnedAt (w : World K) (obj : Workload K.Spec) (generation : Nat) : Prop :=
  generation ≤ obj.metadata.generation ∧ ∃ record ∈ w.log, record.obj.metadata.generation = generation ∧
    (generation = obj.metadata.generation → record.obj.spec = obj.spec) ∧ Earned K record.env record.obj

/-- What the stored status claims, some reconcile on record has earned. -/
structure Truthful (w : World K) (obj : Workload K.Spec) : Prop where
  synced : ∀ c, findCondition obj.status.conditions conditionSynced = some c → c.status = .conditionTrue →
    EarnedAt w obj c.observedGeneration
  observedGeneration : obj.status.observedGeneration ≠ 0 → EarnedAt w obj obj.status.observedGeneration

theorem EarnedAt.later {before after : World K} {obj kept : Workload K.Spec} {generation : Nat}
    (earned : EarnedAt before obj generation) (log : ∀ record ∈ before.log, record ∈ after.log)
    (request : (kept.spec = obj.spec ∧ kept.metadata.generation = obj.metadata.generation) ∨
      kept.metadata.generation = obj.metadata.generation + 1) : EarnedAt after kept generation := by
  obtain ⟨bound, record, member, read, spec, evidence⟩ := earned
  rcases request with ⟨sameSpec, same⟩ | later
  · refine ⟨same ▸ bound, record, log record member, read, fun current => ?_, evidence⟩
    exact (spec (current.trans same)).trans sameSpec.symm
  · refine ⟨by omega, record, log record member, read, fun current => ?_, evidence⟩
    omega

theorem Truthful.later {before after : World K} {obj kept : Workload K.Spec} (truthful : Truthful before obj)
    (log : ∀ record ∈ before.log, record ∈ after.log) (status : kept.status = obj.status)
    (request : (kept.spec = obj.spec ∧ kept.metadata.generation = obj.metadata.generation) ∨
      kept.metadata.generation = obj.metadata.generation + 1) : Truthful after kept := by
  constructor
  · rw [status]
    exact fun c found confirms => (truthful.synced c found confirms).later log request
  · rw [status]
    exact fun synced => (truthful.observedGeneration synced).later log request

theorem truthful_reconcile {w : World K} {env : Env K.Spec K.MQSpec K.State} {met : ObjectAddress K → Option Provenance}
    (truthful : ∀ obj, w.cr = some obj → Truthful w obj) (valid : w.Valid (.reconcile env met)) {kept : Workload K.Spec}
    (stays : (w.next (.reconcile env met)).cr = some kept) : Truthful (w.next (.reconcile env met)) kept := by
  rcases next_reconcile_cases w env met valid with ⟨unread, same⟩ | ⟨obj, read, stored, -, frame, -, log⟩
  · rw [same] at stays ⊢
    exact (truthful kept stays).later (fun _ member => member) rfl (.inl ⟨rfl, rfl⟩)
  · obtain ⟨spec, generation, -⟩ := frame kept stays
    have older : ∀ record ∈ w.log, record ∈ (w.next (.reconcile env met)).log := by
      rw [log]
      exact fun record member => List.mem_cons_of_mem _ member
    simp only [World.next, read] at stays
    rw [reconcile_of_read read] at stays
    rcases World.status_applyWrites env _ _ _ 0 stays with ⟨before, present, same⟩ | ⟨written, member, same⟩
    · obtain rfl := Option.some.inj (stored.symm.trans present)
      exact (truthful obj stored).later older same (.inl ⟨spec, generation⟩)
    · rcases status_cases member with denies | ⟨evidence, text, rfl⟩
      · refine ⟨fun c found confirms => ?_, fun synced => ?_⟩
        · obtain ⟨denial, there, refuses, -⟩ := denies.synced
          rw [same, there] at found
          obtain rfl := Option.some.inj found
          cases refuses.symm.trans confirms
        · rw [same, denies.observedGeneration] at synced ⊢
          exact ((truthful obj stored).observedGeneration synced).later older (.inl ⟨spec, generation⟩)
      · have earned : EarnedAt (w.next (.reconcile env met)) kept obj.metadata.generation := by
          refine ⟨generation.ge, ⟨obj, env, w.address obj⟩, ?_, rfl, fun _ => spec.symm, evidence⟩
          rw [log]
          exact List.mem_cons_self
        refine ⟨fun c found confirms => ?_, fun _ => ?_⟩
        · obtain ⟨time, there⟩ := exists_findCondition_setCondition env.now conditionSynced .conditionTrue reasonAvailable
            K.syncedMessage obj.metadata.generation obj.status.conditions
          rw [same] at found
          obtain rfl := Option.some.inj (there.symm.trans found)
          exact earned
        · rw [same]
          exact earned

/-- From the creation of a resource on, over any order of reconciles, edits, deletion and changes in IBM MQ and whatever
fails in between: where the status says that the resource is synced, or that a generation was observed, a reconcile that
read this generation of the spec found the object in line or had its write confirmed. -/
theorem status_is_earned {allowed : World K → Act K → Prop} {obj : Workload K.Spec} {managers : String → ManagerAddress}
    {existing : ObjectAddress K → Bool} (new : IsNew obj) (blank : obj.status.conditions = []) {last : World K}
    (run : (lifecycle K).Reach allowed (World.initial obj managers existing) last) {kept : Workload K.Spec}
    (stored : last.cr = some kept) : Truthful last kept := by
  refine run.invariant (fun w => ∀ kept, w.cr = some kept → Truthful w kept) ?_ ?_ kept stored
  · intro kept stored
    obtain rfl := Option.some.inj stored
    refine ⟨fun c found => ?_, fun synced => absurd new.unsynced synced⟩
    rw [blank] at found
    cases found
  · intro w act truthful possible _ after remains
    have valid : w.Valid act := possible
    have stays : (w.next act).cr = some after := remains
    cases act with
    | reconcile env met => exact truthful_reconcile truthful valid stays
    | _ =>
      obtain ⟨log, before, present, status, request⟩ := kept_by_others valid (fun _ _ same => by cases same) stays
      refine (truthful before present).later (fun record member => ?_) status request
      exact log.symm ▸ member

end Runs

section Cases

attribute [local instance] asciiTables

def ordersSynced : World queueReconciler :=
  let first : World queueReconciler := .initial (ordersQueue none) (fun _ => calmManager) fun _ => false
  first.next (first.calmAct { name := "ORDERS", attributes := ∅ } .ok)

theorem status_is_earned_orders :
    (∃ kept, ordersSynced.cr = some kept ∧ kept.status.observedGeneration = 1) ∧
      ∀ kept, ordersSynced.cr = some kept → Truthful ordersSynced kept := by
  have run : (lifecycle queueReconciler).Reach (fun _ _ => True)
      (World.initial (ordersQueue none) (fun _ => calmManager) fun _ => false) ordersSynced :=
    reach_calm System.Reach.start _ .ok rfl trivial
  exact ⟨⟨_, rfl, rfl⟩, fun kept stored => status_is_earned ⟨rfl, by decide, rfl⟩ rfl run stored⟩

end Cases

end MKurator.Controller
