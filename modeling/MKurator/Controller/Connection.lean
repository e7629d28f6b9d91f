import MKurator.Controller.Steps

/-! The reconciler of queue manager connections. It tests each connection and reports the result in the `Ready`
condition. It watches its own kind without a predicate, so a status write that changes the stored object starts the next
reconcile of that object. -/

namespace MKurator.Controller.QueueManagerConnectionReconciler
open MKurator.Api MKurator.MqAdmin MKurator.Lib MKurator.Lib.Strings

/-- What one reconcile reads, and how its calls are answered. `forConnection` holds the answer of `Ping` when the factory
has a client. -/
structure ProbeEnv where
  now : Nat
  transientRequeue : Nat
  terminalRetry : Nat
  object : Lookup QueueManagerConnection
  release : Option MqError
  forConnection : Except MqError (Option MqError)
  statusUpdate : Nat → WriteAnswer
  update : WriteAnswer

inductive ProbeCall where
  | releaseConnection
  | update (conn : QueueManagerConnection)
  | statusUpdate (conn : QueueManagerConnection)
  | forConnection
  | ping
  | event (warning : Bool) (reason message : String)

def containsFinalizer (conn : QueueManagerConnection) : Bool :=
  decide (queueManagerConnectionFinalizer ∈ conn.metadata.finalizers)

def addFinalizer (conn : QueueManagerConnection) : QueueManagerConnection :=
  { conn with metadata := { conn.metadata with
      finalizers := conn.metadata.finalizers ++ [queueManagerConnectionFinalizer] } }

def removeFinalizer (conn : QueueManagerConnection) : QueueManagerConnection :=
  { conn with metadata := { conn.metadata with
      finalizers := conn.metadata.finalizers.filter (· ≠ queueManagerConnectionFinalizer) } }

def alreadyReady (conn : QueueManagerConnection) : Bool :=
  conditionsReady conn.conditions && conn.observedGeneration == conn.metadata.generation

def withReady (now : Nat) (status : ConditionStatus) (reason message : String) (conn : QueueManagerConnection) :
    QueueManagerConnection :=
  { conn with conditions := setCondition now conditionReady status reason message conn.metadata.generation conn.conditions }

def readyMsg : String := "mqweb connection is healthy"

def testing (now : Nat) : QueueManagerConnection → QueueManagerConnection :=
  withReady now .conditionFalse reasonProgressing "Testing mqweb connectivity"

def healthy (now : Nat) (conn : QueueManagerConnection) : QueueManagerConnection :=
  { withReady now .conditionTrue reasonAvailable readyMsg conn with observedGeneration := conn.metadata.generation }

section Reconciler

variable [UnicodeTables]

def failing (now : Nat) (e : MqError) : QueueManagerConnection → QueueManagerConnection :=
  withReady now .conditionFalse reasonError e.text

def recordReconcileWarning (e : MqError) : Traced ProbeCall Unit :=
  if e.isTransient then pure ()
  else
    let (reason, message) := classifyReconcileError e
    .call (.event true reason message) ()

/-- The status write of `fail` is the `n`-th of its reconcile. -/
def fail (env : ProbeEnv) (n : Nat) (conn : QueueManagerConnection) (e : MqError) : Traced ProbeCall Reconciled :=
  if alreadyReady conn && e.isTransient then pure ⟨env.transientRequeue, none⟩
  else do
    recordReconcileWarning e
    let requeue := if e.isTransient then env.transientRequeue else 0
    let answer ← .call (.statusUpdate (failing env.now e conn)) (env.statusUpdate n)
    match answer.err with
    | some statusErr => return ⟨requeue, some (.wrapped "update status" statusErr)⟩
    | none => return ⟨if e.isTransient then requeue else env.terminalRetry, none⟩

def succeed (env : ProbeEnv) (n : Nat) (conn : QueueManagerConnection) : Traced ProbeCall Reconciled := do
  if conditionChanged conn.conditions conditionReady .conditionTrue reasonAvailable then
    .call (.event false reasonAvailable readyMsg) ()
  let answer ← .call (.statusUpdate (healthy env.now conn)) (env.statusUpdate n)
  return ⟨0, answer.err.map (.wrapped "update status")⟩

/-- The connection test. `wasReady` is `alreadyReady` before the reconcile wrote anything. -/
def probe (env : ProbeEnv) (n : Nat) (wasReady : Bool) (conn : QueueManagerConnection) : Traced ProbeCall Reconciled := do
  let admin ← .call .forConnection env.forConnection
  match admin with
  | .error e => fail env n conn e
  | .ok answer =>
    let pinged ← .call .ping answer
    match pinged with
    | some e => fail env n conn e
    | none => if wasReady then return ⟨0, none⟩ else succeed env n conn

def reconcileLive (env : ProbeEnv) (conn : QueueManagerConnection) : Traced ProbeCall Reconciled :=
  if alreadyReady conn then probe env 0 true conn
  else do
    let answer ← .call (.statusUpdate (testing env.now conn)) (env.statusUpdate 0)
    match answer.err with
    | some e => return ⟨0, some (.wrapped "update status progressing" e)⟩
    | none => probe env 1 false (testing env.now conn)

def reconcileDeletion (env : ProbeEnv) (conn : QueueManagerConnection) : Traced ProbeCall Reconciled := do
  if !containsFinalizer conn then return ⟨0, none⟩
  let released ← .call .releaseConnection env.release
  match released with
  | some e => return ⟨0, some (.wrapped "release mq client" e)⟩
  | none =>
    let answer ← .call (.update (removeFinalizer conn)) env.update
    return ⟨0, answer.err.map (.wrapped "remove finalizer")⟩

def reconcile (env : ProbeEnv) : Traced ProbeCall Reconciled :=
  match env.object with
  | .notFound _ => pure ⟨0, none⟩
  | .failed e => pure ⟨0, some (.wrapped "get QueueManagerConnection" e)⟩
  | .found conn =>
    if conn.metadata.deletionTimestamp.isSome then reconcileDeletion env conn
    else if containsFinalizer conn then reconcileLive env conn
    else do
      let answer ← .call (.update (addFinalizer conn)) env.update
      return ⟨0, answer.err.map (.wrapped "add finalizer")⟩

end Reconciler

def ProbeEnv.outcome (env : ProbeEnv) : Option MqError :=
  match env.forConnection with
  | .error e => some e
  | .ok pinged => pinged

def statusWrites (calls : List ProbeCall) : List QueueManagerConnection :=
  calls.filterMap fun
    | .statusUpdate written => some written
    | _ => none

def storedAfter (conn : QueueManagerConnection) (calls : List ProbeCall) : QueueManagerConnection :=
  (statusWrites calls).getLast?.getD conn

/-- No status write changes the stored object, so none of them starts another reconcile. -/
def Quiescent (stored : QueueManagerConnection) (calls : List ProbeCall) : Prop :=
  ∀ written ∈ statusWrites calls, written = stored

/-- A connection on the API server: the CRD declares its conditions as a map with the key `type`. -/
structure StoredConnection extends QueueManagerConnection where
  distinct : (conditions.map Condition.type).Nodup

section Conditions

theorem conditionsReady_setCondition_true (now : Nat) (reason message : String) (generation : Nat)
    (conditions : List Condition) :
    conditionsReady (setCondition now conditionReady .conditionTrue reason message generation conditions) = true := by
  induction conditions with
  | nil => simp [setCondition, conditionsReady]
  | cons c rest ih =>
    rw [setCondition]
    by_cases same : c.type = conditionReady
    · simp [same, conditionsReady]
    · rw [if_neg same, conditionsReady, List.any_cons]
      exact Bool.or_eq_true_iff.mpr (.inr ih)

theorem conditionsReady_of_absent {conditions : List Condition}
    (absent : conditionReady ∉ conditions.map Condition.type) : conditionsReady conditions = false := by
  apply List.any_eq_false.mpr
  intro c member ready
  have named : c.type = conditionReady := by simpa using (Bool.and_eq_true_iff.mp ready).1
  exact absent (List.mem_map.mpr ⟨c, member, named⟩)

theorem conditionsReady_setCondition_false (now : Nat) (reason message : String) (generation : Nat)
    {conditions : List Condition} (distinct : (conditions.map Condition.type).Nodup) :
    conditionsReady (setCondition now conditionReady .conditionFalse reason message generation conditions) = false := by
  induction conditions with
  | nil => simp [setCondition, conditionsReady]
  | cons c rest ih =>
    obtain ⟨fresh, distinct⟩ := List.nodup_cons.mp distinct
    rw [setCondition]
    by_cases same : c.type = conditionReady
    · have others := conditionsReady_of_absent (same ▸ fresh)
      rw [if_pos same, conditionsReady, List.any_cons]
      simpa [conditionsReady] using others
    · rw [if_neg same, conditionsReady, List.any_cons]
      have skipped : (c.type == conditionReady) = false := by simpa using same
      simpa [skipped, conditionsReady] using ih distinct

theorem types_setCondition (now : Nat) (status : ConditionStatus) (reason message : String) (generation : Nat)
    (conditions : List Condition) :
    (setCondition now conditionReady status reason message generation conditions).map Condition.type =
      if conditionReady ∈ conditions.map Condition.type then conditions.map Condition.type
      else conditions.map Condition.type ++ [conditionReady] := by
  induction conditions with
  | nil => simp [setCondition]
  | cons c rest ih =>
    rw [setCondition]
    by_cases same : c.type = conditionReady
    · simp [same]
    · have apart : conditionReady ≠ c.type := Ne.symm same
      rw [if_neg same, List.map_cons, ih, List.map_cons]
      simp only [List.mem_cons, or_iff_right apart]
      split <;> rfl

theorem distinct_setCondition (now : Nat) (status : ConditionStatus) (reason message : String) (generation : Nat)
    {conditions : List Condition} (distinct : (conditions.map Condition.type).Nodup) :
    ((setCondition now conditionReady status reason message generation conditions).map Condition.type).Nodup := by
  rw [types_setCondition]
  split
  next => exact distinct
  next absent => exact List.concat_eq_append ▸ distinct.concat absent

theorem reason_withReady (now : Nat) (status : ConditionStatus) (reason message : String) (conn : QueueManagerConnection) :
    (findCondition (withReady now status reason message conn).conditions conditionReady).map Condition.reason =
      some reason :=
  findCondition_setCondition ..

theorem alreadyReady_withReady_false (now : Nat) (reason message : String) {conn : QueueManagerConnection}
    (distinct : (conn.conditions.map Condition.type).Nodup) :
    alreadyReady (withReady now .conditionFalse reason message conn) = false := by
  rw [alreadyReady, withReady, conditionsReady_setCondition_false _ _ _ _ distinct]
  rfl

theorem alreadyReady_healthy (now : Nat) (conn : QueueManagerConnection) : alreadyReady (healthy now conn) = true := by
  rw [alreadyReady, healthy, withReady, conditionsReady_setCondition_true]
  exact beq_self_eq_true _

end Conditions

theorem statusWrites_append (first second : List ProbeCall) :
    statusWrites (first ++ second) = statusWrites first ++ statusWrites second :=
  List.filterMap_append

theorem statusWrites_succeed (env : ProbeEnv) (n : Nat) (conn : QueueManagerConnection) :
    statusWrites (succeed env n conn).calls = [healthy env.now conn] := by
  rw [succeed]
  split <;> rfl

section TwoReconciles

variable [UnicodeTables]

theorem reconcile_live {env : ProbeEnv} {conn : QueueManagerConnection} (read : env.object = .found conn)
    (live : conn.metadata.deletionTimestamp = none) (finalizing : containsFinalizer conn = true) :
    reconcile env = reconcileLive env conn := by
  rw [reconcile, read]
  change (if conn.metadata.deletionTimestamp.isSome then _ else if containsFinalizer conn then _ else _) = _
  rw [live, finalizing]
  rfl

theorem statusWrites_warning (e : MqError) : statusWrites (recordReconcileWarning e).calls = [] := by
  rw [recordReconcileWarning]
  split <;> rfl

theorem statusWrites_fail (env : ProbeEnv) (n : Nat) (conn : QueueManagerConnection) (e : MqError) :
    statusWrites (fail env n conn e).calls =
      if alreadyReady conn && e.isTransient then [] else [failing env.now e conn] := by
  rw [fail]
  split
  next => rfl
  next =>
    simp only [Traced.calls_bind, Traced.calls_call, statusWrites_append, statusWrites_warning, List.nil_append]
    split <;> rfl

theorem statusWrites_probe (env : ProbeEnv) (n : Nat) (wasReady : Bool) (conn : QueueManagerConnection) :
    statusWrites (probe env n wasReady conn).calls =
      match env.outcome with
      | some e => if alreadyReady conn && e.isTransient then [] else [failing env.now e conn]
      | none => if wasReady then [] else [healthy env.now conn] := by
  rw [probe, ProbeEnv.outcome]
  simp only [Traced.calls_bind, Traced.calls_call, Traced.value_call, statusWrites_append]
  cases env.forConnection with
  | error e => exact statusWrites_fail env n conn e
  | ok answer =>
    cases answer with
    | some e => exact statusWrites_fail env n conn e
    | none =>
      cases wasReady with
      | true => rfl
      | false => exact statusWrites_succeed env n conn

theorem statusWrites_ready {env : ProbeEnv} {conn : QueueManagerConnection} (ready : alreadyReady conn = true) :
    statusWrites (reconcileLive env conn).calls =
      match env.outcome with
      | some e => if e.isTransient then [] else [failing env.now e conn]
      | none => [] := by
  rw [reconcileLive, if_pos ready, statusWrites_probe]
  simp only [ready, Bool.true_and, if_true]

theorem statusWrites_head {env : ProbeEnv} {conn : QueueManagerConnection} (unready : alreadyReady conn = false) :
    testing env.now conn ∈ statusWrites (reconcileLive env conn).calls := by
  rw [reconcileLive, if_neg (by simp [unready])]
  simp only [Traced.calls_bind, Traced.calls_call, statusWrites_append]
  exact List.mem_append_left _ (List.mem_singleton.mpr rfl)

theorem statusWrites_unready {env : ProbeEnv} {conn : QueueManagerConnection} (unready : alreadyReady conn = false)
    (accepted : env.statusUpdate 0 = .ok) (distinct : (conn.conditions.map Condition.type).Nodup) :
    statusWrites (reconcileLive env conn).calls =
      [testing env.now conn,
        match env.outcome with
        | some e => failing env.now e (testing env.now conn)
        | none => healthy env.now (testing env.now conn)] := by
  have reported : alreadyReady (testing env.now conn) = false := alreadyReady_withReady_false _ _ _ distinct
  rw [reconcileLive, if_neg (by simp [unready])]
  simp only [Traced.calls_bind, Traced.calls_call, Traced.value_call, statusWrites_append, accepted]
  change statusWrites [.statusUpdate (testing env.now conn)] ++
    statusWrites (probe env 1 false (testing env.now conn)).calls = _
  rw [statusWrites_probe, reported]
  cases env.outcome <;> rfl

theorem storedAfter_healthy {env : ProbeEnv} {conn : QueueManagerConnection} (succeeded : env.outcome = none)
    (accepted : env.statusUpdate 0 = .ok) (distinct : (conn.conditions.map Condition.type).Nodup) :
    alreadyReady (storedAfter conn (reconcileLive env conn).calls) = true := by
  rw [storedAfter]
  cases ready : alreadyReady conn with
  | true =>
    rw [statusWrites_ready ready, succeeded]
    exact ready
  | false =>
    rw [statusWrites_unready ready accepted distinct, succeeded]
    exact alreadyReady_healthy env.now (testing env.now conn)

theorem storedAfter_failing {env : ProbeEnv} {conn : QueueManagerConnection} {e : MqError}
    (failed : env.outcome = some e) (reported : (alreadyReady conn && e.isTransient) = false)
    (accepted : env.statusUpdate 0 = .ok) (distinct : (conn.conditions.map Condition.type).Nodup) :
    ∃ before : QueueManagerConnection, (before.conditions.map Condition.type).Nodup ∧
      storedAfter conn (reconcileLive env conn).calls = failing env.now e before := by
  rw [storedAfter]
  cases ready : alreadyReady conn with
  | true =>
    have lasting : e.isTransient = false := by simpa [ready] using reported
    rw [statusWrites_ready ready, failed]
    simp only [lasting]
    exact ⟨conn, distinct, rfl⟩
  | false =>
    rw [statusWrites_unready ready accepted distinct, failed]
    exact ⟨testing env.now conn, distinct_setCondition _ _ _ _ _ distinct, rfl⟩

theorem metadata_storedAfter {env : ProbeEnv} {conn : QueueManagerConnection} (accepted : env.statusUpdate 0 = .ok)
    (distinct : (conn.conditions.map Condition.type).Nodup) :
    (storedAfter conn (reconcileLive env conn).calls).metadata = conn.metadata := by
  rw [storedAfter]
  cases ready : alreadyReady conn with
  | true =>
    rw [statusWrites_ready ready]
    cases env.outcome with
    | none => rfl
    | some e =>
      change ((if e.isTransient then [] else [failing env.now e conn]).getLast?.getD conn).metadata = _
      split <;> rfl
  | false =>
    rw [statusWrites_unready ready accepted distinct]
    cases env.outcome <;> rfl

/-- A connection that stays healthy settles, and so does one that was ready and fails for a while. In every other
failure the stored report is overwritten by the one that the connection is being tested, in each further reconcile. -/
theorem second_reconcile_quiescent_iff (conn : StoredConnection)
    (live : conn.metadata.deletionTimestamp = none) (finalizing : containsFinalizer conn.toQueueManagerConnection = true)
    (env again : ProbeEnv) (read : env.object = .found conn.toQueueManagerConnection)
    (completed : ∀ n, env.statusUpdate n = .ok)
    (reread : again.object = .found (storedAfter conn.toQueueManagerConnection (reconcile env).calls))
    (same : again.outcome = env.outcome) :
    Quiescent (storedAfter conn.toQueueManagerConnection (reconcile env).calls) (reconcile again).calls ↔
      ∀ e ∈ env.outcome, alreadyReady conn.toQueueManagerConnection = true ∧ e.isTransient = true := by
  rw [reconcile_live read live finalizing] at reread ⊢
  have kept := metadata_storedAfter (completed 0) conn.distinct
  obtain ⟨stored, defined⟩ : ∃ stored, storedAfter conn.toQueueManagerConnection
      (reconcileLive env conn.toQueueManagerConnection).calls = stored := ⟨_, rfl⟩
  rw [defined] at reread kept ⊢
  have stillLive : stored.metadata.deletionTimestamp = none := kept ▸ live
  have stillFinalizing : containsFinalizer stored = true := by
    rw [containsFinalizer, kept]
    exact finalizing
  rw [reconcile_live reread stillLive stillFinalizing]
  cases outcome : env.outcome with
  | none =>
    have ready : alreadyReady stored = true := defined ▸ storedAfter_healthy outcome (completed 0) conn.distinct
    have silent : statusWrites (reconcileLive again stored).calls = [] := by
      rw [statusWrites_ready ready, same, outcome]
    simp [Quiescent, silent]
  | some e =>
    simp only [Option.mem_def, Option.some.injEq, forall_eq', ← Bool.and_eq_true_iff]
    cases tolerated : alreadyReady conn.toQueueManagerConnection && e.isTransient with
    | true =>
      obtain ⟨ready, transient⟩ := Bool.and_eq_true_iff.mp tolerated
      have unchanged : stored = conn.toQueueManagerConnection := by
        rw [← defined, storedAfter, statusWrites_ready ready, outcome]
        simp [transient]
      have silent : statusWrites (reconcileLive again stored).calls = [] := by
        rw [unchanged, statusWrites_ready ready, same, outcome]
        simp [transient]
      simp [Quiescent, silent]
    | false =>
      obtain ⟨before, distinct, reported⟩ := storedAfter_failing outcome tolerated (completed 0) conn.distinct
      have failed : stored = failing env.now e before := defined.symm.trans reported
      have unready : alreadyReady stored = false := failed ▸ alreadyReady_withReady_false _ _ _ distinct
      refine iff_of_false (fun quiet => ?_) nofun
      -- the first write of the second reconcile replaces the reason Error by Progressing
      have overwritten : testing again.now stored = stored := quiet _ (statusWrites_head unready)
      have reasons := congrArg (fun c => (findCondition c.conditions conditionReady).map Condition.reason) overwritten
      rw [failed] at reasons
      simp only [testing, failing, reason_withReady] at reasons
      exact absurd reasons (by decide)

end TwoReconciles

section Concrete

attribute [local instance] asciiTables

def ordersConnection : StoredConnection where
  metadata := ⟨"qm1", "default", 1, none, [queueManagerConnectionFinalizer], ∅⟩
  spec := ⟨"QM1", "https://mq:9443", "", none, some "mq-credentials", none⟩
  conditions := []
  observedGeneration := 0
  distinct := List.nodup_nil

def probing (now : Nat) (conn : QueueManagerConnection) (outcome : Option MqError) : ProbeEnv :=
  ⟨now, 30, 120, .found conn, none, .ok outcome, fun _ => .ok, .ok⟩

def unauthorized : MqError := .terminal .unauthorized "mqweb ping returned HTTP 401"

def afterFirst (outcome : Option MqError) : QueueManagerConnection :=
  storedAfter ordersConnection.toQueueManagerConnection
    (reconcile (probing 5 ordersConnection.toQueueManagerConnection outcome)).calls

/-- With credentials that stay wrong, the second reconcile writes a status that the object does not have. -/
theorem unauthorized_never_settles :
    ¬ Quiescent (afterFirst (some unauthorized))
      (reconcile (probing 8 (afterFirst (some unauthorized)) (some unauthorized))).calls := by
  intro quiet
  have overwritten := quiet _ (List.Mem.head _)
  exact absurd (congrArg (fun c => c.conditions.map Condition.reason) overwritten) (by decide)

theorem second_reconcile_quiescent_healthy :
    Quiescent (afterFirst none) (reconcile (probing 8 (afterFirst none) none)).calls :=
  (second_reconcile_quiescent_iff ordersConnection rfl rfl (probing 5 ordersConnection.toQueueManagerConnection none)
    (probing 8 (afterFirst none) none) rfl (fun _ => rfl) rfl rfl).mpr nofun

end Concrete

end MKurator.Controller.QueueManagerConnectionReconciler
