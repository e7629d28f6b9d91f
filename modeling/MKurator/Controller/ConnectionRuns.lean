import MKurator.Controller.Connection
import MKurator.Controller.Wakeups

/-! One connection and its key on the work queue, over any order of reconciles, edits, changes of Secrets and deletion:
the key is never lost while there is something to do, and `Ready` is never reported without a successful test. -/

namespace MKurator.Controller.QueueManagerConnectionReconciler
open MKurator.Api MKurator.MqAdmin MKurator.Lib MKurator.Lib.Strings

deriving instance DecidableEq for ObjectMeta

deriving instance DecidableEq for QueueManagerConnection

structure Watched where
  stored : Option QueueManagerConnection
  /-- A worker will take the key. -/
  queued : Bool
  /-- The key comes back to the queue after a delay, asked for by a result or imposed after an error. -/
  delayed : Bool
  /-- The generations and specs for which a test has succeeded. -/
  tested : List (Nat × QueueManagerConnectionSpec)

inductive WatchAct where
  | reconcile (env : ProbeEnv)
  | delayOver
  | edit (new : QueueManagerConnection)
  | delete (time : Nat)
  | secretChanged

/-- The API server drops a deleting connection with its last finalizer. -/
def kept (conn : QueueManagerConnection) : Option QueueManagerConnection :=
  if conn.metadata.deletionTimestamp.isSome && conn.metadata.finalizers.isEmpty then none else some conn

theorem kept_eq_some {conn stays : QueueManagerConnection} (some_ : kept conn = some stays) : stays = conn := by
  unfold kept at some_
  split at some_
  · cases some_
  · exact (Option.some.inj some_).symm

/-- An edit keeps the status and the deletion time, and bumps the generation with every change of the spec. -/
structure IsEdit (stored new : QueueManagerConnection) : Prop where
  conditions : new.conditions = stored.conditions
  observed : new.observedGeneration = stored.observedGeneration
  deletion : new.metadata.deletionTimestamp = stored.metadata.deletionTimestamp
  generation : (new.spec = stored.spec ∧ new.metadata.generation = stored.metadata.generation) ∨
    (new.spec ≠ stored.spec ∧ new.metadata.generation = stored.metadata.generation + 1)

namespace Watched

def write (s : Watched) (stored : Option QueueManagerConnection) : Watched :=
  { s with stored, queued := s.queued || decide (stored ≠ s.stored) }

def storeStatus (s : Watched) (answer : WriteAnswer) (written : QueueManagerConnection) : Watched :=
  if answer.applied then
    s.write (s.stored.map fun conn =>
      { conn with conditions := written.conditions, observedGeneration := written.observedGeneration })
  else s

def storeFinalizers (s : Watched) (answer : WriteAnswer) (written : QueueManagerConnection) : Watched :=
  if answer.applied then
    s.write (s.stored.bind fun conn =>
      kept { conn with metadata := { conn.metadata with finalizers := written.metadata.finalizers } })
  else s

/-- The writes of a reconcile take effect in order; `n` counts the status writes so far. -/
def apply (env : ProbeEnv) : Watched → Nat → List ProbeCall → Watched
  | s, _, [] => s
  | s, n, .statusUpdate written :: rest => apply env (s.storeStatus (env.statusUpdate n) written) (n + 1) rest
  | s, n, .update written :: rest => apply env (s.storeFinalizers env.update written) n rest
  | s, n, _ :: rest => apply env s n rest

end Watched

def pings (calls : List ProbeCall) : Bool :=
  calls.any fun
    | .ping => true
    | _ => false

section Runs

variable [UnicodeTables]

def testedBy (env : ProbeEnv) : List (Nat × QueueManagerConnectionSpec) :=
  match env.object with
  | .found conn =>
    if pings (reconcile env).calls && decide (env.outcome = none) then [(conn.metadata.generation, conn.spec)] else []
  | _ => []

namespace Watched

def next (s : Watched) : WatchAct → Watched
  | .reconcile env =>
    -- the worker takes the key off before it reconciles
    { apply env { s with queued := false } 0 (reconcile env).calls with
      delayed := s.delayed || (reconcile env).value.comesBack
      tested := testedBy env ++ s.tested }
  | .delayOver => { s with queued := true, delayed := false }
  | .edit new => s.write (kept new)
  | .delete time => s.write (s.stored.bind fun conn => kept { conn with metadata :=
      { conn.metadata with generation := conn.metadata.generation + 1, deletionTimestamp := some time } })
  | .secretChanged => { s with queued := true }

/-- A reconcile needs the key on the queue and reads the connection as it is stored, if it can read it. -/
def Valid (s : Watched) : WatchAct → Prop
  | .reconcile env =>
    s.queued = true ∧ 0 < env.transientRequeue ∧ 0 < env.terminalRetry ∧
      (∀ conn, env.object = .found conn → s.stored = some conn) ∧ ∀ e, env.object = .notFound e → s.stored = none
  | .delayOver => s.delayed = true
  | .edit new => ∃ conn, s.stored = some conn ∧ IsEdit conn new
  | .delete _ => ∃ conn, s.stored = some conn ∧ conn.metadata.deletionTimestamp = none
  | .secretChanged => True

end Watched

def connectionQueue : System Watched WatchAct := ⟨Watched.Valid, Watched.next⟩

/-- A connection that was just created: the API server takes no status then. -/
def created (conn : QueueManagerConnection) : Watched :=
  ⟨some { conn with conditions := [], observedGeneration := 0 }, true, false, []⟩

end Runs

section Writes

variable {s : Watched} {env : ProbeEnv}

theorem Watched.queued_of_change {stored : Option QueueManagerConnection} (changed : stored ≠ s.stored) :
    (s.write stored).queued = true := by
  simp [Watched.write, changed]

theorem apply_succeed (n : Nat) (conn : QueueManagerConnection) :
    s.apply env n (succeed env n conn).calls = s.storeStatus (env.statusUpdate n) (healthy env.now conn) := by
  rw [succeed]
  split <;> rfl

theorem comesBack_succeed {n : Nat} {conn : QueueManagerConnection} (refused : (env.statusUpdate n).err ≠ none) :
    (succeed env n conn).value.comesBack = true := by
  rw [succeed]
  split <;> simp [Reconciled.comesBack, Option.isSome_iff_ne_none, refused]

variable [UnicodeTables]

theorem apply_warning (n : Nat) (e : MqError) (rest : List ProbeCall) :
    s.apply env n ((recordReconcileWarning e).calls ++ rest) = s.apply env n rest := by
  rw [recordReconcileWarning]
  split <;> rfl

theorem apply_fail (n : Nat) (conn : QueueManagerConnection) (e : MqError) :
    s.apply env n (fail env n conn e).calls =
      if alreadyReady conn && e.isTransient then s else s.storeStatus (env.statusUpdate n) (failing env.now e conn) := by
  rw [fail]
  split
  next => rfl
  next =>
    simp only [Traced.calls_bind, Traced.calls_call]
    rw [apply_warning]
    split <;> rfl

theorem comesBack_fail (transient : 0 < env.transientRequeue) (terminal : 0 < env.terminalRetry) (n : Nat)
    (conn : QueueManagerConnection) (e : MqError) : (fail env n conn e).value.comesBack = true := by
  rw [fail]
  split
  next => simp [Reconciled.comesBack, transient]
  next =>
    simp only [Traced.value_bind, Traced.value_call]
    cases (env.statusUpdate n).err with
    | some statusErr => simp [Reconciled.comesBack]
    | none =>
      simp only [Traced.value_pure, Reconciled.comesBack]
      split <;> simp [transient, terminal]

theorem apply_probe (n : Nat) (wasReady : Bool) (conn : QueueManagerConnection) :
    s.apply env n (probe env n wasReady conn).calls =
      match env.outcome with
      | some e =>
        if alreadyReady conn && e.isTransient then s else s.storeStatus (env.statusUpdate n) (failing env.now e conn)
      | none => if wasReady then s else s.storeStatus (env.statusUpdate n) (healthy env.now conn) := by
  rw [probe, ProbeEnv.outcome]
  simp only [Traced.calls_bind, Traced.calls_call, Traced.value_call]
  cases env.forConnection with
  | error e => exact apply_fail n conn e
  | ok answer =>
    cases answer with
    | some e => exact apply_fail n conn e
    | none =>
      cases wasReady with
      | true => rfl
      | false => exact apply_succeed n conn

theorem comesBack_probe (transient : 0 < env.transientRequeue) (terminal : 0 < env.terminalRetry) {n : Nat}
    {wasReady : Bool} {conn : QueueManagerConnection} {e : MqError} (failed : env.outcome = some e) :
    (probe env n wasReady conn).value.comesBack = true := by
  rw [ProbeEnv.outcome] at failed
  rw [probe]
  simp only [Traced.value_bind, Traced.value_call]
  cases client : env.forConnection with
  | error e' => exact comesBack_fail transient terminal n conn e'
  | ok answer =>
    rw [client] at failed
    cases failed
    exact comesBack_fail transient terminal n conn e

theorem rest_of_probe (transient : 0 < env.transientRequeue) (terminal : 0 < env.terminalRetry) {n : Nat} {wasReady : Bool}
    {conn : QueueManagerConnection} (ended : (probe env n wasReady conn).value.comesBack = false) :
    env.outcome = none ∧ (wasReady = false → env.statusUpdate n = .ok) := by
  have succeeded : env.outcome = none := by
    cases failed : env.outcome with
    | none => rfl
    | some e =>
      rw [comesBack_probe transient terminal failed] at ended
      cases ended
  refine ⟨succeeded, fun unready => ?_⟩
  subst unready
  by_contra refused
  rw [← WriteAnswer.err_eq_none_iff] at refused
  rw [ProbeEnv.outcome] at succeeded
  rw [probe] at ended
  simp only [Traced.value_bind, Traced.value_call] at ended
  cases client : env.forConnection with
  | error e =>
    rw [client] at succeeded
    cases succeeded
  | ok answer =>
    rw [client] at succeeded ended
    cases succeeded
    have back : (succeed env n conn).value.comesBack = false := ended
    rw [comesBack_succeed refused] at back
    cases back

end Writes

section Rest

/-- There is nothing to do for the connection: it is ready as it is, or on its way out and released. -/
def Resting (conn : QueueManagerConnection) : Prop :=
  (conn.metadata.deletionTimestamp = none ∧ containsFinalizer conn = true ∧ alreadyReady conn = true) ∨
    (conn.metadata.deletionTimestamp.isSome = true ∧ containsFinalizer conn = false)

def Watched.Left (s : Watched) : Prop := s.queued = true ∨ ∀ conn, s.stored = some conn → Resting conn

/-- The key is on the queue, comes back to it, or is not needed there. -/
def Watched.Covered (s : Watched) : Prop :=
  s.queued = true ∨ s.delayed = true ∨ ∀ conn, s.stored = some conn → Resting conn

theorem queued_storeFinalizers {s : Watched} {conn written : QueueManagerConnection} (stored : s.stored = some conn)
    (differs : written.metadata.finalizers ≠ conn.metadata.finalizers) :
    (s.storeFinalizers .ok written).queued = true := by
  apply Watched.queued_of_change
  rw [stored, Option.bind_some]
  intro same
  have unchanged := kept_eq_some same
  exact differs (congrArg (fun c => c.metadata.finalizers) unchanged).symm

theorem finalizers_removeFinalizer {conn : QueueManagerConnection} (finalizing : containsFinalizer conn = true) :
    (removeFinalizer conn).metadata.finalizers ≠ conn.metadata.finalizers := by
  intro same
  have member : queueManagerConnectionFinalizer ∈ (removeFinalizer conn).metadata.finalizers := by
    rw [same]
    exact of_decide_eq_true finalizing
  simp [removeFinalizer] at member

theorem finalizers_addFinalizer (conn : QueueManagerConnection) :
    (addFinalizer conn).metadata.finalizers ≠ conn.metadata.finalizers := by
  intro same
  have longer := congrArg List.length same
  simp [addFinalizer] at longer

theorem update_of_ended {answer : WriteAnswer} {context : String}
    (ended : Reconciled.comesBack ⟨0, answer.err.map (.wrapped context)⟩ = false) : answer = .ok := by
  cases answer with
  | ok => rfl
  | failed e => cases ended
  | lost e => cases ended

theorem apply_reconcileDeletion (s : Watched) (env : ProbeEnv) (conn : QueueManagerConnection) :
    s.apply env 0 (reconcileDeletion env conn).calls = s ∨
      s.apply env 0 (reconcileDeletion env conn).calls = s.storeFinalizers env.update (removeFinalizer conn) := by
  unfold reconcileDeletion
  cases containsFinalizer conn with
  | false => exact .inl rfl
  | true =>
    cases env.release with
    | some e => exact .inl rfl
    | none => exact .inr rfl

theorem left_reconcileDeletion {s : Watched} {env : ProbeEnv} {conn : QueueManagerConnection}
    (stored : s.stored = some conn) (deleting : conn.metadata.deletionTimestamp.isSome = true)
    (ended : (reconcileDeletion env conn).value.comesBack = false) :
    (s.apply env 0 (reconcileDeletion env conn).calls).Left := by
  unfold reconcileDeletion at ended ⊢
  cases finalizing : containsFinalizer conn with
  | false =>
    refine .inr fun after found => .inr ?_
    have same : conn = after := Option.some.inj (stored.symm.trans found)
    exact same ▸ ⟨deleting, finalizing⟩
  | true =>
    simp only [finalizing, Bool.not_true, if_neg Bool.false_ne_true, Traced.value_bind, Traced.value_call] at ended
    simp only [Bool.not_true, if_neg Bool.false_ne_true, Traced.calls_bind, Traced.calls_call, Traced.value_call]
    cases released : env.release with
    | some e =>
      rw [released] at ended
      cases ended
    | none =>
      rw [released] at ended
      have accepted : env.update = .ok := update_of_ended ended
      have written : s.apply env 0 ([.releaseConnection] ++
          (do
            let answer ← Traced.call (ProbeCall.update (removeFinalizer conn)) env.update
            return (⟨0, answer.err.map (.wrapped "remove finalizer")⟩ : Reconciled) : Traced ProbeCall Reconciled).calls) =
            s.storeFinalizers env.update (removeFinalizer conn) := rfl
      rw [written, accepted]
      exact .inl (queued_storeFinalizers stored (finalizers_removeFinalizer finalizing))

theorem Watched.Covered.write {s : Watched} (covered : s.Covered) (stored : Option QueueManagerConnection) :
    (s.write stored).Covered := by
  by_cases changed : stored = s.stored
  · have same : s.write stored = s := by simp [Watched.write, changed]
    rw [same]
    exact covered
  · exact .inl (Watched.queued_of_change changed)

variable [UnicodeTables]

theorem covered_reconcileLive {s : Watched} {env : ProbeEnv} {conn : QueueManagerConnection}
    (transient : 0 < env.transientRequeue) (terminal : 0 < env.terminalRetry) (stored : s.stored = some conn)
    (live : conn.metadata.deletionTimestamp = none) (finalizing : containsFinalizer conn = true)
    (ended : (reconcileLive env conn).value.comesBack = false) :
    ∀ after, (s.apply env 0 (reconcileLive env conn).calls).stored = some after → Resting after := by
  unfold reconcileLive at ended ⊢
  cases ready : alreadyReady conn with
  | true =>
    rw [ready, if_pos rfl] at ended
    rw [if_pos rfl, apply_probe, (rest_of_probe transient terminal ended).1]
    intro after found
    have same : conn = after := Option.some.inj (stored.symm.trans found)
    exact .inl (same ▸ ⟨live, finalizing, ready⟩)
  | false =>
    rw [ready, if_neg Bool.false_ne_true] at ended
    rw [if_neg Bool.false_ne_true]
    simp only [Traced.value_bind, Traced.value_call] at ended
    simp only [Traced.calls_bind, Traced.calls_call, Traced.value_call]
    cases answer : (env.statusUpdate 0).err with
    | some e =>
      rw [answer] at ended
      cases ended
    | none =>
      rw [answer] at ended
      have accepted : env.statusUpdate 0 = .ok := (WriteAnswer.err_eq_none_iff _).mp answer
      obtain ⟨succeeded, written⟩ := rest_of_probe transient terminal ended
      intro after found
      have split : s.apply env 0 ([.statusUpdate (testing env.now conn)] ++ (probe env 1 false (testing env.now conn)).calls) =
          (s.storeStatus (env.statusUpdate 0) (testing env.now conn)).apply env 1
            (probe env 1 false (testing env.now conn)).calls := rfl
      rw [split, apply_probe, succeeded, written rfl, accepted] at found
      have ends : ((s.storeStatus .ok (testing env.now conn)).storeStatus .ok
          (healthy env.now (testing env.now conn))).stored = some (healthy env.now (testing env.now conn)) := by
        simp only [Watched.storeStatus, Watched.write, WriteAnswer.applied, stored]
        rfl
      have same : healthy env.now (testing env.now conn) = after := Option.some.inj (ends.symm.trans found)
      exact .inl (same ▸ ⟨live, finalizing, alreadyReady_healthy _ _⟩)

theorem covered_reconcile {s : Watched} {env : ProbeEnv} (valid : s.Valid (.reconcile env)) :
    (s.next (.reconcile env)).Covered := by
  obtain ⟨-, transient, terminal, read, missing⟩ := valid
  cases ended : (reconcile env).value.comesBack with
  | true => exact .inr (.inl (by simp [Watched.next, ended]))
  | false =>
    -- what the writes leave, the key having been taken
    suffices left : (({ s with queued := false } : Watched).apply env 0 (reconcile env).calls).Left by
      rcases left with queued | resting
      · exact .inl queued
      · exact .inr (.inr resting)
    unfold reconcile at ended ⊢
    cases object : env.object with
    | notFound e => exact .inr fun conn found => nomatch (missing e object).symm.trans found
    | failed e =>
      rw [object] at ended
      cases ended
    | found conn =>
      have stored : ({ s with queued := false } : Watched).stored = some conn := read conn object
      rw [object] at ended
      simp only at ended ⊢
      by_cases deleting : conn.metadata.deletionTimestamp.isSome = true
      · rw [if_pos deleting] at ended ⊢
        exact left_reconcileDeletion stored deleting ended
      · rw [if_neg deleting] at ended ⊢
        by_cases finalizing : containsFinalizer conn = true
        · rw [if_pos finalizing] at ended ⊢
          refine .inr (covered_reconcileLive transient terminal stored ?_ finalizing ended)
          simpa using deleting
        · rw [if_neg finalizing] at ended ⊢
          have accepted : env.update = .ok := update_of_ended ended
          have written : ({ s with queued := false } : Watched).apply env 0
              (do
                let answer ← Traced.call (ProbeCall.update (addFinalizer conn)) env.update
                return (⟨0, answer.err.map (.wrapped "add finalizer")⟩ : Reconciled) : Traced ProbeCall Reconciled).calls =
              ({ s with queued := false } : Watched).storeFinalizers env.update (addFinalizer conn) := rfl
          rw [written, accepted]
          exact .inl (queued_storeFinalizers stored (finalizers_addFinalizer conn))

theorem Watched.Covered.next {s : Watched} (covered : s.Covered) {act : WatchAct} (valid : s.Valid act) :
    (s.next act).Covered := by
  cases act with
  | reconcile env => exact covered_reconcile valid
  | delayOver => exact .inl rfl
  | edit new => exact covered.write _
  | delete time => exact covered.write _
  | secretChanged => exact .inl rfl

/-- While a connection is not ready as it is now, or is being deleted and still held, its key is on the queue or comes
back to it: no order of failures, edits, rotations and deletion leaves it behind. -/
theorem connection_key_never_lost {conn : QueueManagerConnection} {s : Watched}
    (run : connectionQueue.Reach (fun _ _ => True) (created conn) s) :
    s.queued = true ∨ s.delayed = true ∨ ∀ stored, s.stored = some stored → Resting stored :=
  run.invariant Watched.Covered (.inl rfl) fun _ _ covered valid _ => covered.next valid

end Rest

section Earned

/-- If the connection counts as ready, then for a spec that was tested with success at the generation it reports. -/
structure EarnedBy (tested : List (Nat × QueueManagerConnectionSpec)) (conn : QueueManagerConnection) : Prop where
  distinct : (conn.conditions.map Condition.type).Nodup
  observed : conn.observedGeneration ≤ conn.metadata.generation
  earned : conditionsReady conn.conditions = true → ∃ spec, (conn.observedGeneration, spec) ∈ tested ∧
    (conn.observedGeneration = conn.metadata.generation → spec = conn.spec)

namespace EarnedBy

variable {tested : List (Nat × QueueManagerConnectionSpec)} {conn : QueueManagerConnection}

theorem unready (earned : EarnedBy tested conn) (now : Nat) (reason message : String) :
    EarnedBy tested (withReady now .conditionFalse reason message conn) where
  distinct := distinct_setCondition _ _ _ _ _ earned.distinct
  observed := earned.observed
  earned ready := by
    rw [withReady, conditionsReady_setCondition_false _ _ _ _ earned.distinct] at ready
    cases ready

theorem healthy (earned : EarnedBy tested conn) (now : Nat)
    (success : (conn.metadata.generation, conn.spec) ∈ tested) :
    EarnedBy tested (QueueManagerConnectionReconciler.healthy now conn) where
  distinct := distinct_setCondition _ _ _ _ _ earned.distinct
  observed := Nat.le_refl _
  earned _ := ⟨conn.spec, success, fun _ => rfl⟩

theorem revised (earned : EarnedBy tested conn) {new : QueueManagerConnection} (conditions : new.conditions = conn.conditions)
    (observed : new.observedGeneration = conn.observedGeneration)
    (generation : (new.spec = conn.spec ∧ new.metadata.generation = conn.metadata.generation) ∨
      new.metadata.generation = conn.metadata.generation + 1) : EarnedBy tested new := by
  have bound := earned.observed
  refine ⟨conditions ▸ earned.distinct, by omega, fun ready => ?_⟩
  obtain ⟨spec, success, current⟩ := earned.earned (conditions ▸ ready)
  refine ⟨spec, observed ▸ success, fun same => ?_⟩
  rcases generation with ⟨sameSpec, sameGeneration⟩ | bumped
  · rw [sameSpec]
    exact current (by omega)
  · omega

theorem mono (earned : EarnedBy tested conn) {more : List (Nat × QueueManagerConnectionSpec)} (known : tested ⊆ more) :
    EarnedBy more conn := by
  refine ⟨earned.distinct, earned.observed, fun ready => ?_⟩
  obtain ⟨spec, success, current⟩ := earned.earned ready
  exact ⟨spec, known success, current⟩

end EarnedBy

def Watched.Earned (tested : List (Nat × QueueManagerConnectionSpec)) (s : Watched) : Prop :=
  ∀ conn, s.stored = some conn → EarnedBy tested conn

variable {tested : List (Nat × QueueManagerConnectionSpec)} {s : Watched} {conn : QueueManagerConnection}

theorem earned_storeStatus (stored : s.stored = some conn) (before : EarnedBy tested conn) (answer : WriteAnswer)
    {written : QueueManagerConnection} (after : EarnedBy tested written) (sameMeta : written.metadata = conn.metadata)
    (sameSpec : written.spec = conn.spec) : (s.storeStatus answer written).Earned tested := by
  intro now found
  unfold Watched.storeStatus at found
  split at found
  · simp only [Watched.write, stored, Option.map_some, Option.some.injEq] at found
    rw [← found, ← sameMeta, ← sameSpec]
    exact after
  · rw [stored] at found
    cases found
    exact before

theorem earned_storeFinalizers (earned : s.Earned tested) (answer : WriteAnswer) (written : QueueManagerConnection) :
    (s.storeFinalizers answer written).Earned tested := by
  intro now found
  unfold Watched.storeFinalizers at found
  split at found
  · obtain ⟨old, stored, stays⟩ := Option.bind_eq_some_iff.mp found
    rw [kept_eq_some stays]
    exact (earned old stored).revised rfl rfl (.inl ⟨rfl, rfl⟩)
  · exact earned now found

variable [UnicodeTables] {env : ProbeEnv}

theorem earned_probe (stored : s.stored = some conn) (before : EarnedBy tested conn) (n : Nat) (wasReady : Bool)
    (success : env.outcome = none → (conn.metadata.generation, conn.spec) ∈ tested) :
    (s.apply env n (probe env n wasReady conn).calls).Earned tested := by
  have unchanged : s.Earned tested := by
    intro now found
    rw [stored] at found
    cases found
    exact before
  rw [apply_probe]
  cases outcome : env.outcome with
  | some e =>
    simp only
    split
    · exact unchanged
    · exact earned_storeStatus stored before _ (before.unready _ _ _) rfl rfl
  | none =>
    simp only
    split
    · exact unchanged
    · exact earned_storeStatus stored before _ (before.healthy _ (success outcome)) rfl rfl

theorem pings_probe (success : env.outcome = none) (n : Nat) (wasReady : Bool) :
    pings (probe env n wasReady conn).calls = true := by
  have client : env.forConnection = .ok none := by
    rw [ProbeEnv.outcome] at success
    cases answer : env.forConnection with
    | error e =>
      rw [answer] at success
      cases success
    | ok pinged =>
      rw [answer] at success
      exact congrArg Except.ok success
  rw [probe]
  simp only [Traced.calls_bind, Traced.calls_call, Traced.value_call, client]
  rfl

theorem mem_testedBy (read : env.object = .found conn) (reached : reconcile env = reconcileLive env conn)
    (success : env.outcome = none) (asks : pings (reconcileLive env conn).calls = true) :
    (conn.metadata.generation, conn.spec) ∈ testedBy env ++ tested := by
  refine List.mem_append_left _ ?_
  rw [testedBy, read]
  simp only [reached, asks, success, decide_true, Bool.and_true, if_true, List.mem_singleton]

theorem earned_reconcileLive (stored : s.stored = some conn) (before : EarnedBy tested conn)
    (read : env.object = .found conn) (reached : reconcile env = reconcileLive env conn) :
    (s.apply env 0 (reconcileLive env conn).calls).Earned (testedBy env ++ tested) := by
  have known : EarnedBy (testedBy env ++ tested) conn := before.mono (List.subset_append_right _ _)
  have record : pings (reconcileLive env conn).calls = true → env.outcome = none →
      (conn.metadata.generation, conn.spec) ∈ testedBy env ++ tested :=
    fun asks success => mem_testedBy read reached success asks
  cases ready : alreadyReady conn with
  | true =>
    have whole : reconcileLive env conn = probe env 0 true conn := if_pos ready
    rw [whole] at record ⊢
    exact earned_probe stored known 0 true fun success => record (pings_probe success 0 true) success
  | false =>
    have whole : reconcileLive env conn = (do
        let answer ← .call (.statusUpdate (testing env.now conn)) (env.statusUpdate 0)
        match answer.err with
        | some e => return ⟨0, some (.wrapped "update status progressing" e)⟩
        | none => probe env 1 false (testing env.now conn)) := if_neg (by simp [ready])
    rw [whole] at record ⊢
    simp only [Traced.calls_bind, Traced.calls_call, Traced.value_call] at record ⊢
    have tests : EarnedBy (testedBy env ++ tested) (testing env.now conn) := known.unready _ _ _
    cases answer : (env.statusUpdate 0).err with
    | some e => exact earned_storeStatus stored known _ tests rfl rfl
    | none =>
      rw [answer] at record
      have accepted : env.statusUpdate 0 = .ok := (WriteAnswer.err_eq_none_iff _).mp answer
      have reported : (s.storeStatus (env.statusUpdate 0) (testing env.now conn)).stored = some (testing env.now conn) := by
        simp only [accepted, Watched.storeStatus, Watched.write, WriteAnswer.applied, stored]
        rfl
      exact earned_probe reported tests 1 false fun success => record (pings_probe success 1 false) success

theorem earned_reconcile (earned : s.Earned tested) (valid : s.Valid (.reconcile env)) :
    (s.next (.reconcile env)).Earned (testedBy env ++ tested) := by
  obtain ⟨-, -, -, read, -⟩ := valid
  have more : ({ s with queued := false } : Watched).Earned (testedBy env ++ tested) := fun conn stored =>
    (earned conn stored).mono (List.subset_append_right _ _)
  -- the writes alone
  suffices left : (({ s with queued := false } : Watched).apply env 0 (reconcile env).calls).Earned (testedBy env ++ tested) from
    left
  cases object : env.object with
  | notFound e =>
    rw [reconcile, object]
    exact more
  | failed e =>
    rw [reconcile, object]
    exact more
  | found conn =>
    have stored : ({ s with queued := false } : Watched).stored = some conn := read conn object
    by_cases deleting : conn.metadata.deletionTimestamp.isSome = true
    · have whole : reconcile env = reconcileDeletion env conn := by
        rw [reconcile, object]
        exact if_pos deleting
      rw [whole]
      rcases apply_reconcileDeletion { s with queued := false } env conn with same | written
      · rw [same]
        exact more
      · rw [written]
        exact earned_storeFinalizers more _ _
    · by_cases finalizing : containsFinalizer conn = true
      · have live := reconcile_live object (by simpa using deleting) finalizing
        have result := earned_reconcileLive stored (earned conn stored) object live
        rwa [← live] at result
      · have written : ({ s with queued := false } : Watched).apply env 0 (reconcile env).calls =
            ({ s with queued := false } : Watched).storeFinalizers env.update (addFinalizer conn) := by
          rw [reconcile, object]
          simp only
          rw [if_neg deleting, if_neg finalizing]
          rfl
        rw [written]
        exact earned_storeFinalizers more _ _

theorem Watched.Earned.next (earned : s.Earned s.tested) {act : WatchAct} (valid : s.Valid act) :
    (s.next act).Earned (s.next act).tested := by
  cases act with
  | reconcile env => exact earned_reconcile earned valid
  | delayOver => exact earned
  | edit new =>
    obtain ⟨old, stored, edit⟩ := valid
    intro now found
    rw [kept_eq_some found]
    refine (earned old stored).revised edit.conditions edit.observed ?_
    rcases edit.generation with same | ⟨-, bumped⟩
    · exact .inl same
    · exact .inr bumped
  | delete time =>
    intro now found
    obtain ⟨old, stored, stays⟩ := Option.bind_eq_some_iff.mp found
    rw [kept_eq_some stays]
    exact (earned old stored).revised rfl rfl (.inr rfl)
  | secretChanged => exact earned

end Earned

section Progress

/-- Nobody changes the connection, and every reconcile reads it, tests it with success and may write. -/
def Unhindered (_ : Watched) : WatchAct → Prop
  | .reconcile env =>
    (∃ conn, env.object = .found conn) ∧ env.outcome = none ∧ env.update = .ok ∧ ∀ n, env.statusUpdate n = .ok
  | .edit _ | .delete _ => False
  | .delayOver | .secretChanged => True

def isReconcile : WatchAct → Bool
  | .reconcile _ => true
  | _ => false

structure Stage (spec : QueueManagerConnectionSpec) (n : Nat) (conn : QueueManagerConnection) : Prop where
  live : conn.metadata.deletionTimestamp = none
  spec_eq : conn.spec = spec
  finalizing : 1 ≤ n → containsFinalizer conn = true
  ready : 2 ≤ n → alreadyReady conn = true

theorem Stage.weaken {spec : QueueManagerConnectionSpec} {conn : QueueManagerConnection} {n m : Nat}
    (stage : Stage spec n conn) (below : m ≤ n) : Stage spec m conn :=
  ⟨stage.live, stage.spec_eq, fun least => stage.finalizing (by omega), fun least => stage.ready (by omega)⟩

def Watched.AtStage (spec : QueueManagerConnectionSpec) (n : Nat) (s : Watched) : Prop :=
  ∃ conn, s.stored = some conn ∧ Stage spec n conn

theorem containsFinalizer_addFinalizer (conn : QueueManagerConnection) : containsFinalizer (addFinalizer conn) = true := by
  simp [containsFinalizer, addFinalizer]

theorem kept_of_live {conn : QueueManagerConnection} (live : conn.metadata.deletionTimestamp = none) :
    kept conn = some conn := by
  simp [kept, live]

variable [UnicodeTables] {spec : QueueManagerConnectionSpec} {s : Watched} {env : ProbeEnv} {conn : QueueManagerConnection}

theorem stored_reconcileLive (stored : s.stored = some conn) (success : env.outcome = none)
    (accepted : ∀ n, env.statusUpdate n = .ok) :
    ∃ after, (s.apply env 0 (reconcileLive env conn).calls).stored = some after ∧ after.metadata = conn.metadata ∧
      after.spec = conn.spec ∧ alreadyReady after = true := by
  cases ready : alreadyReady conn with
  | true =>
    have whole : reconcileLive env conn = probe env 0 true conn := if_pos ready
    rw [whole, apply_probe, success]
    exact ⟨conn, stored, rfl, rfl, ready⟩
  | false =>
    have whole : s.apply env 0 (reconcileLive env conn).calls =
        (s.storeStatus .ok (testing env.now conn)).apply env 1 (probe env 1 false (testing env.now conn)).calls := by
      rw [reconcileLive, if_neg (by simp [ready])]
      simp only [Traced.calls_bind, Traced.calls_call, Traced.value_call]
      rw [accepted 0]
      simp only [List.cons_append, List.nil_append, Watched.apply, accepted 0]
      rfl
    rw [whole, apply_probe, success, accepted 1]
    refine ⟨healthy env.now (testing env.now conn), ?_, rfl, rfl, alreadyReady_healthy _ _⟩
    simp only [Watched.storeStatus, Watched.write, WriteAnswer.applied, stored]
    rfl

theorem stage_reconcile {n : Nat} (at_ : s.AtStage spec n) (valid : s.Valid (.reconcile env))
    (unhindered : Unhindered s (.reconcile env)) : (s.next (.reconcile env)).AtStage spec (n + 1) := by
  obtain ⟨conn, stored, stage⟩ := at_
  obtain ⟨-, -, -, read, -⟩ := valid
  obtain ⟨⟨seen, object⟩, success, updated, accepted⟩ := unhindered
  have same : conn = seen := Option.some.inj (stored.symm.trans (read seen object))
  subst same
  have taken : ({ s with queued := false } : Watched).stored = some conn := stored
  by_cases finalizing : containsFinalizer conn = true
  · obtain ⟨after, found, sameMeta, sameSpec, ready⟩ := stored_reconcileLive taken success accepted
    rw [← reconcile_live object stage.live finalizing] at found
    refine ⟨after, found, sameMeta ▸ stage.live, sameSpec.trans stage.spec_eq, fun _ => ?_, fun _ => ready⟩
    rw [containsFinalizer, sameMeta]
    exact finalizing
  · have early : n = 0 := by
      by_contra later
      exact finalizing (stage.finalizing (by omega))
    subst early
    have written : (({ s with queued := false } : Watched).apply env 0 (reconcile env).calls).stored =
        some (addFinalizer conn) := by
      rw [reconcile, object]
      simp only [stage.live, Option.isSome_none, if_neg Bool.false_ne_true, if_neg finalizing]
      simp only [Traced.calls_bind, Traced.calls_call, Traced.calls_pure, List.append_nil, Watched.apply, updated,
        Watched.storeFinalizers, Watched.write, WriteAnswer.applied, stored, Option.bind_some, if_true]
      exact kept_of_live stage.live
    exact ⟨addFinalizer conn, written, stage.live, stage.spec_eq, fun _ => containsFinalizer_addFinalizer conn,
      fun absurdity => by omega⟩

theorem stage_of_follows {acts : List WatchAct} (follows : connectionQueue.Follows Unhindered s acts)
    (stored : s.stored = some conn) (live : conn.metadata.deletionTimestamp = none) :
    (acts.foldl Watched.next s).AtStage conn.spec (0 + acts.countP isReconcile) := by
  refine follows.level (Watched.AtStage conn.spec) isReconcile ?_ ?_
    ⟨conn, stored, live, rfl, fun absurdity => by omega, fun absurdity => by omega⟩
  · intro n state act at_ valid unhindered
    cases act with
    | reconcile env =>
      obtain ⟨after, found, stage⟩ := stage_reconcile at_ valid unhindered
      exact ⟨after, found, stage.weaken (by omega)⟩
    | delayOver => exact at_
    | secretChanged => exact at_
    | edit new => exact absurd unhindered id
    | delete time => exact absurd unhindered id
  · intro n state act raises at_ valid unhindered
    cases act with
    | reconcile env => exact stage_reconcile at_ valid unhindered
    | _ => cases raises

/-- Left alone, a connection is ready after two reconciles in which it can be reached, and stays so. -/
theorem ready_after_two_tests {acts : List WatchAct} (follows : connectionQueue.Follows Unhindered s acts)
    (stored : s.stored = some conn) (live : conn.metadata.deletionTimestamp = none)
    (twice : 2 ≤ acts.countP isReconcile) :
    ∃ after, (acts.foldl Watched.next s).stored = some after ∧ after.spec = conn.spec ∧
      containsFinalizer after = true ∧ alreadyReady after = true := by
  obtain ⟨after, found, stage⟩ := stage_of_follows follows stored live
  exact ⟨after, found, stage.spec_eq, stage.finalizing (by omega), stage.ready (by omega)⟩

end Progress

section Cases

attribute [local instance] asciiTables

def declaredConnection : QueueManagerConnection := ⟨⟨"qm1", "default", 1, none, [], ∅⟩, ordersConnection.spec, [], 0⟩

/-- The first reconcile adds the finalizer, and its write brings the key back for the second one, which tests. -/
def firstSteps : List WatchAct :=
  [.reconcile (probing 5 declaredConnection none), .reconcile (probing 8 (addFinalizer declaredConnection) none)]

theorem follows_firstSteps : connectionQueue.Follows Unhindered (created declaredConnection) firstSteps := by
  refine ⟨⟨rfl, by decide, by decide, fun conn read => ?_, fun e read => by cases read⟩,
    ⟨⟨_, rfl⟩, rfl, rfl, fun _ => rfl⟩,
    ⟨⟨?_, by decide, by decide, fun conn read => ?_, fun e read => by cases read⟩,
    ⟨⟨_, rfl⟩, rfl, rfl, fun _ => rfl⟩, trivial⟩⟩
  · cases read
    rfl
  · exact queued_storeFinalizers (s := { created declaredConnection with queued := false }) rfl (finalizers_addFinalizer _)
  · cases read
    rfl

theorem reach_firstSteps : connectionQueue.Reach (fun _ _ => True) (created declaredConnection)
    (firstSteps.foldl Watched.next (created declaredConnection)) :=
  (System.Reach.start.follow firstSteps follows_firstSteps).mono fun _ _ _ => trivial

def readyConnection : QueueManagerConnection := healthy 8 (testing 8 (addFinalizer declaredConnection))

theorem connection_key_never_lost_first :
    (firstSteps.foldl Watched.next (created declaredConnection)).queued = true ∨
      (firstSteps.foldl Watched.next (created declaredConnection)).delayed = true ∨
      ∀ stored, (firstSteps.foldl Watched.next (created declaredConnection)).stored = some stored → Resting stored :=
  connection_key_never_lost reach_firstSteps

theorem ready_after_two_tests_first :
    ∃ after, (firstSteps.foldl Watched.next (created declaredConnection)).stored = some after ∧
      after.spec = declaredConnection.spec ∧ containsFinalizer after = true ∧ alreadyReady after = true :=
  ready_after_two_tests follows_firstSteps
    (show (created declaredConnection).stored = some declaredConnection from rfl) rfl (by decide)

end Cases

end MKurator.Controller.QueueManagerConnectionReconciler
