import MKurator.Controller.World

/-! What one reconcile leaves of the world, in five cases. -/

namespace MKurator.Controller
open MKurator.Api MKurator.MqAdmin MKurator.Lib MKurator.Lib.Strings

variable {K : Kind}

namespace World

section Fields

variable (w : World K) (answer : WriteAnswer) (obj : Workload K.Spec) (target : ObjectAddress K)

@[simp] theorem storeStatus_mq : (w.storeStatus answer obj).mq = w.mq := by
  unfold storeStatus
  split <;> rfl

@[simp] theorem storeStatus_managers : (w.storeStatus answer obj).managers = w.managers := by
  unfold storeStatus
  split <;> rfl

@[simp] theorem storeStatus_released : (w.storeStatus answer obj).released = w.released := by
  unfold storeStatus
  split <;> rfl

@[simp] theorem storeFinalizers_mq : (w.storeFinalizers answer obj).mq = w.mq := by
  unfold storeFinalizers
  split <;> rfl

@[simp] theorem storeFinalizers_managers : (w.storeFinalizers answer obj).managers = w.managers := by
  unfold storeFinalizers
  split <;> rfl

theorem storeFinalizers_released_of_mem (kept : K.finalizer ∈ obj.metadata.finalizers) :
    (w.storeFinalizers answer obj).released = w.released := by
  unfold storeFinalizers
  split <;> simp [containsFinalizer, kept]

@[simp] theorem defineAt_cr : (w.defineAt answer target).cr = w.cr := by
  unfold defineAt
  split <;> rfl

@[simp] theorem defineAt_managers : (w.defineAt answer target).managers = w.managers := by
  unfold defineAt
  split <;> rfl

@[simp] theorem defineAt_released : (w.defineAt answer target).released = w.released := by
  unfold defineAt
  split <;> rfl

@[simp] theorem deleteAt_cr (answer : DeleteAnswer) : (w.deleteAt answer target).cr = w.cr := by
  unfold deleteAt
  split <;> rfl

@[simp] theorem deleteAt_managers (answer : DeleteAnswer) : (w.deleteAt answer target).managers = w.managers := by
  unfold deleteAt
  split <;> rfl

theorem deleteAt_mq (answer : DeleteAnswer) :
    (w.deleteAt answer target).mq = if answer.applied then Function.update w.mq target none else w.mq := by
  unfold deleteAt
  split <;> rfl

@[simp] theorem deleteAt_released (answer : DeleteAnswer) : (w.deleteAt answer target).released = w.released := by
  unfold deleteAt
  split <;> rfl

end Fields

def StoredAs (obj : Workload K.Spec) (w : World K) : Prop :=
  ∀ kept, w.cr = some kept → kept.spec = obj.spec ∧ kept.metadata.generation = obj.metadata.generation ∧
    kept.metadata.deletionTimestamp = obj.metadata.deletionTimestamp

def SyncedAt (generation : Nat) (w : World K) : Prop :=
  ∀ kept, w.cr = some kept → kept.status.observedGeneration = generation

variable {obj : Workload K.Spec} {w : World K}

theorem StoredAs.storeStatus (frame : w.StoredAs obj) (answer : WriteAnswer) (patched : Workload K.Spec) :
    (w.storeStatus answer patched).StoredAs obj := by
  unfold World.storeStatus
  split
  · intro kept stored
    obtain ⟨before, present, rfl⟩ := Option.map_eq_some_iff.mp stored
    exact frame before present
  · exact frame

theorem StoredAs.storeFinalizers (frame : w.StoredAs obj) (answer : WriteAnswer) (new : Workload K.Spec) :
    (w.storeFinalizers answer new).StoredAs obj := by
  unfold World.storeFinalizers
  split
  · intro kept stored
    obtain ⟨before, present, stays⟩ := Option.bind_eq_some_iff.mp stored
    rw [retained_eq_some stays]
    exact frame before present
  · exact frame

theorem StoredAs.applyWrites (env : Env K.Spec K.MQSpec K.State) (admin : Option (Admin K.MQSpec K.State))
    (target : ObjectAddress K) (calls : List (Call K.Spec K.MQSpec)) {w : World K} (frame : w.StoredAs obj) (n : Nat) :
    (w.applyWrites env admin target n calls).StoredAs obj ∧
      (w.applyWrites env admin target n calls).managers = w.managers := by
  induction calls generalizing w n with
  | nil => exact ⟨frame, rfl⟩
  | cons call rest ih =>
    cases call with
    | statusUpdate patched =>
      obtain ⟨stored, managers⟩ := ih (frame.storeStatus (env.statusUpdate n) patched) (n + 1)
      exact ⟨stored, managers.trans (by simp)⟩
    | update new =>
      obtain ⟨stored, managers⟩ := ih (frame.storeFinalizers env.update new) n
      exact ⟨stored, managers.trans (by simp)⟩
    | define spec =>
      cases admin with
      | none => exact ih frame n
      | some port =>
        have same : (w.defineAt (port.define spec) target).StoredAs obj := by simpa [StoredAs] using frame
        obtain ⟨stored, managers⟩ := ih same n
        exact ⟨stored, managers.trans (by simp)⟩
    | delete spec =>
      cases admin with
      | none => exact ih frame n
      | some port =>
        have same : (w.deleteAt (port.delete spec) target).StoredAs obj := by simpa [StoredAs] using frame
        obtain ⟨stored, managers⟩ := ih same n
        exact ⟨stored, managers.trans (by simp)⟩
    | _ => exact ih frame n

theorem SyncedAt.storeStatus {generation : Nat} (sync : w.SyncedAt generation) (answer : WriteAnswer)
    {patched : Workload K.Spec} (same : patched.status.observedGeneration = generation) :
    (w.storeStatus answer patched).SyncedAt generation := by
  unfold World.storeStatus
  split
  · intro kept stored
    obtain ⟨before, present, rfl⟩ := Option.map_eq_some_iff.mp stored
    exact same
  · exact sync

theorem syncedAt_storeStatus (sync : w.SyncedAt obj.status.observedGeneration) (answer : WriteAnswer)
    (patched : Workload K.Spec) :
    (w.storeStatus answer patched).SyncedAt
      (if answer.applied then patched.status.observedGeneration else obj.status.observedGeneration) := by
  unfold World.storeStatus
  cases applied : answer.applied with
  | true =>
    intro kept stored
    obtain ⟨before, present, rfl⟩ := Option.map_eq_some_iff.mp stored
    rfl
  | false => exact sync

theorem SyncedAt.storeFinalizers {generation : Nat} (sync : w.SyncedAt generation) (answer : WriteAnswer)
    (new : Workload K.Spec) : (w.storeFinalizers answer new).SyncedAt generation := by
  unfold World.storeFinalizers
  split
  · intro kept stored
    obtain ⟨before, present, stays⟩ := Option.bind_eq_some_iff.mp stored
    rw [retained_eq_some stays]
    exact sync before present
  · exact sync

end World

theorem address_eq_of_storedAs {w after : World K} {obj kept : Workload K.Spec} (frame : after.StoredAs obj)
    (managers : after.managers = w.managers) (stays : after.cr = some kept) : after.address kept = w.address obj := by
  have spec := (frame kept stays).1
  rw [World.address, World.address, connectionRefName, connectionRefName, managers, spec]

section Outcomes

variable [UnicodeTables] (w : World K) (obj : Workload K.Spec) (env : Env K.Spec K.MQSpec K.State)
  (met : ObjectAddress K → Option Provenance)

/-- A reconcile of `obj` whose MQ writes meet `met`. Only a sync moves the last synced generation, and only a delete
answered with success, or an orphan request, lets go of the finalizer. -/
inductive Outcome (after : World K) : Prop
  | silent (mq : after.mq = met) (released : after.released = w.released)
      (sync : after.SyncedAt obj.status.observedGeneration)
  | synced (admin : Admin K.MQSpec K.State) (keys : List String) (gate : EnsureGate K env obj admin)
      (seen : Observation K obj admin keys)
      (unneeded : K.needsUpdate keys (K.toMQ obj.spec) (K.observed admin (K.toMQ obj.spec)) = false)
      (permitted : K.adoptionBlock keys obj (K.toMQ obj.spec) (K.observed admin (K.toMQ obj.spec)) = none ∨
        (K.observeOnlyFirst = true ∧ isObserveOnly obj = true))
      (mq : after.mq = met) (released : after.released = w.released)
      (sync : after.SyncedAt (if (env.statusUpdate 0).applied then obj.metadata.generation
        else obj.status.observedGeneration))
  | defined (admin : Admin K.MQSpec K.State) (keys : List String) (gate : EnsureGate K env obj admin)
      (seen : Observation K obj admin keys)
      (called : .define (K.toMQ obj.spec) ∈ (reconcileWorkload K env obj).calls)
      (needed : K.needsUpdate keys (K.toMQ obj.spec) (K.observed admin (K.toMQ obj.spec)) = true)
      (permitted : K.adoptionBlock keys obj (K.toMQ obj.spec) (K.observed admin (K.toMQ obj.spec)) = none)
      (mq : after.mq = ({ w with mq := met }.defineAt (admin.define (K.toMQ obj.spec)) (w.address obj)).mq)
      (released : after.released = w.released)
      (sync : after.SyncedAt (if admin.define (K.toMQ obj.spec) = .ok ∧ (env.statusUpdate 0).applied then
        obj.metadata.generation else obj.status.observedGeneration))
  | deleting (admin : Admin K.MQSpec K.State) (gate : DeleteGate K env obj admin)
      (mq : after.mq = ({ w with mq := met }.deleteAt (admin.delete (K.toMQ obj.spec)) (w.address obj)).mq)
      (released : after.released = w.released ∨ (admin.delete (K.toMQ obj.spec)).err = none)
      (sync : after.SyncedAt obj.status.observedGeneration)
  | orphaned (deleting : obj.metadata.deletionTimestamp.isSome = true) (requested : orphanDeletionRequested obj = true)
      (mq : after.mq = met) (sync : after.SyncedAt obj.status.observedGeneration)

theorem reconcile_outcome (stored : w.cr = some obj) :
    Outcome w obj env met (World.applyWrites env (portFor K env (connectionRefName obj)) (w.address obj)
      { w with mq := met } 0 (writes (reconcileWorkload K env obj))) := by
  have before : ({ w with mq := met } : World K).SyncedAt obj.status.observedGeneration := by
    intro kept present
    rw [Option.some.inj (stored.symm.trans present)]
  have shape := reconcileWorkload_cases K env obj
  generalize calls : writes (reconcileWorkload K env obj) = written at shape
  have called : .define (K.toMQ obj.spec) ∈ written → .define (K.toMQ obj.spec) ∈ (reconcileWorkload K env obj).calls := by
    intro member
    rwa [mem_writes rfl, calls]
  cases shape with
  | quiet => exact .silent rfl rfl before
  | reported patched report plain =>
    exact .silent (by simp [World.applyWrites]) (by simp [World.applyWrites])
      (before.storeStatus _ report.observedGeneration)
  | blocked admin keys gate seen block refused asked patched report =>
    exact .silent (by simp [World.applyWrites]) (by simp [World.applyWrites])
      (before.storeStatus _ report.observedGeneration)
  | finalizerAdded unsuspended live absent =>
    have present : K.finalizer ∈ (addFinalizer obj K.finalizer).metadata.finalizers := by
      rw [addFinalizer, containsFinalizer, decide_eq_false absent]
      simp
    exact .silent (by simp [World.applyWrites])
      (by simp [World.applyWrites, World.storeFinalizers_released_of_mem _ _ _ present])
      (before.storeFinalizers _ _)
  | synced admin keys gate seen unneeded permitted patched sync plain =>
    refine .synced admin keys gate seen unneeded permitted (by simp [World.applyWrites]) (by simp [World.applyWrites]) ?_
    rw [← sync.observedGeneration]
    exact World.syncedAt_storeStatus before _ patched
  | defineFailed admin keys gate seen acting needed permitted failure patched report plain =>
    have port := (reaches_iff K env obj admin).mp gate.reaches
    refine .defined admin keys gate seen (called List.mem_cons_self) needed permitted (by simp [World.applyWrites, port])
      (by simp [World.applyWrites, port]) ?_
    rw [if_neg fun both => failure both.1, port]
    refine World.SyncedAt.storeStatus ?_ _ report.observedGeneration
    simpa [World.SyncedAt] using before
  | defined admin keys gate seen acting needed permitted success patched sync plain =>
    have port := (reaches_iff K env obj admin).mp gate.reaches
    refine .defined admin keys gate seen (called List.mem_cons_self) needed permitted (by simp [World.applyWrites, port])
      (by simp [World.applyWrites, port]) ?_
    simp only [success, true_and, ← sync.observedGeneration, port]
    refine World.syncedAt_storeStatus ?_ _ patched
    simpa [World.SyncedAt] using before
  | deleteFailed admin gate failure first second report plain written report' plain' =>
    have port := (reaches_iff K env obj admin).mp gate.reaches
    refine .deleting admin gate ?_ (.inl (by simp [World.applyWrites, port])) ?_
    · simp [World.applyWrites, port, World.deleteAt_mq]
    · simp only [World.applyWrites, port, Option.elim_some]
      refine World.SyncedAt.storeStatus ?_ _ report'.observedGeneration
      simpa [World.SyncedAt] using before.storeStatus (env.statusUpdate 0) report.observedGeneration
  | deleted admin gate success patched report plain written =>
    have port := (reaches_iff K env obj admin).mp gate.reaches
    refine .deleting admin gate ?_ (.inr success) ?_
    · simp [World.applyWrites, port, World.deleteAt_mq]
    · simp only [World.applyWrites, port, Option.elim_some]
      refine World.SyncedAt.storeFinalizers ?_ _ _
      simpa [World.SyncedAt] using before.storeStatus (env.statusUpdate 0) report.observedGeneration
  | orphaned unsuspended deleting finalizer requested patched report plain written =>
    refine .orphaned deleting requested (by simp [World.applyWrites]) ?_
    simp only [World.applyWrites]
    exact (before.storeStatus _ report.observedGeneration).storeFinalizers _ _

theorem next_reconcile_cases (valid : w.Valid (.reconcile env met)) :
    ((∀ obj, env.object ≠ .found obj) ∧ w.next (.reconcile env met) = { w with mq := met }) ∨
      ∃ obj, env.object = .found obj ∧ w.cr = some obj ∧ Outcome w obj env met (w.next (.reconcile env met)) ∧
        (w.next (.reconcile env met)).StoredAs obj ∧ (w.next (.reconcile env met)).managers = w.managers ∧
        (w.next (.reconcile env met)).log = ⟨obj, env, w.address obj⟩ :: w.log := by
  cases read : env.object with
  | notFound e => exact .inl ⟨by simp, by simp [World.next, read]⟩
  | failed e => exact .inl ⟨by simp, by simp [World.next, read]⟩
  | found obj =>
    have stored := valid.1 obj read
    have flow : writes (reconcile K env) = writes (reconcileWorkload K env obj) := by rw [reconcile, read]
    have before : ({ w with mq := met } : World K).StoredAs obj := by
      intro kept present
      rw [Option.some.inj (stored.symm.trans present)]
      exact ⟨rfl, rfl, rfl⟩
    have frame := before.applyWrites env (portFor K env (connectionRefName obj)) (w.address obj)
      (writes (reconcileWorkload K env obj)) 0
    have outcome := reconcile_outcome w obj env met stored
    refine .inr ⟨obj, rfl, stored, ?_, ?_, ?_, ?_⟩
    · simp only [World.next, read, flow]
      -- the log is no part of what an outcome speaks about
      cases outcome with
      | silent mq released sync => exact .silent mq released sync
      | synced admin keys gate seen unneeded permitted mq released sync =>
        exact .synced admin keys gate seen unneeded permitted mq released sync
      | defined admin keys gate seen called needed permitted mq released sync =>
        exact .defined admin keys gate seen called needed permitted mq released sync
      | deleting admin gate mq released sync => exact .deleting admin gate mq released sync
      | orphaned deleting requested mq sync => exact .orphaned deleting requested mq sync
    · simp only [World.next, read, flow]
      exact frame.1
    · simp only [World.next, read, flow]
      exact frame.2
    · simp only [World.next, read]

end Outcomes

section Others

/-- What the resource did to an object stays on record as long as the object does. -/
def Inherits (before after : ObjectAddress K → Option Provenance) : Prop :=
  ∀ target object, after target = some object → (object.created = false ∧ object.defined = false) ∨
    ∃ old, before target = some old ∧ object.created = old.created ∧ object.defined = old.defined

theorem Inherits.refl (mq : ObjectAddress K → Option Provenance) : Inherits mq mq :=
  fun _ object present => .inr ⟨object, present, rfl, rfl⟩

theorem Inherits.trans {first second third : ObjectAddress K → Option Provenance} (one : Inherits first second)
    (two : Inherits second third) : Inherits first third := by
  intro target object present
  rcases two target object present with blank | ⟨middle, found, created, defined⟩
  · exact .inl blank
  · rcases one target middle found with ⟨uncreated, undefined⟩ | ⟨old, there, created', defined'⟩
    · exact .inl ⟨created.trans uncreated, defined.trans undefined⟩
    · exact .inr ⟨old, there, created.trans created', defined.trans defined'⟩

theorem ForeignChange.inherits {before after : ObjectAddress K → Option Provenance}
    (change : ForeignChange before after) : Inherits before after := by
  intro target object present
  rcases change target with same | gone | made
  · exact .inr ⟨object, same.symm.trans present, rfl, rfl⟩
  · rw [gone] at present
    cases present
  · rw [made] at present
    cases present
    exact .inl ⟨rfl, rfl⟩

theorem examined_eq_some {w : World K} {env : Env K.Spec K.MQSpec K.State} {target : ObjectAddress K} {object : Provenance}
    (present : w.examined env target = some object) :
    ∃ old, w.mq target = some old ∧ (object = old ∨ object = { old with owned := true }) := by
  have unmarked : w.mq target = some object → ∃ old, w.mq target = some old ∧
      (object = old ∨ object = { old with owned := true }) := fun found => ⟨object, found, .inl rfl⟩
  cases read : env.object with
  | found obj =>
    simp only [World.examined, read] at present
    split at present
    · by_cases same : target = w.address obj
      · subst same
        rw [Function.update_self] at present
        obtain ⟨old, found, rfl⟩ := Option.map_eq_some_iff.mp present
        exact ⟨old, found, .inr rfl⟩
      · rw [Function.update_of_ne same] at present
        exact unmarked present
    · exact unmarked present
  | notFound e => exact unmarked (by simpa [World.examined, read] using present)
  | failed e => exact unmarked (by simpa [World.examined, read] using present)

theorem examined_inherits (w : World K) (env : Env K.Spec K.MQSpec K.State) : Inherits w.mq (w.examined env) := by
  intro target object present
  obtain ⟨old, found, rfl | rfl⟩ := examined_eq_some present
  · exact .inr ⟨object, found, rfl, rfl⟩
  · exact .inr ⟨old, found, rfl, rfl⟩

theorem World.Valid.inherits {w : World K} {env : Env K.Spec K.MQSpec K.State} {met : ObjectAddress K → Option Provenance}
    (valid : w.Valid (.reconcile env met)) : Inherits w.mq met :=
  (examined_inherits w env).trans (ForeignChange.inherits valid.2.2)

theorem markPrior_inherits (w : World K) (target : ObjectAddress K) : Inherits w.mq (w.markPrior target).mq := by
  intro place object present
  by_cases same : place = target
  · subst same
    simp only [World.markPrior, Function.update_self] at present
    obtain ⟨old, found, rfl⟩ := Option.map_eq_some_iff.mp present
    exact .inr ⟨old, found, rfl, rfl⟩
  · simp only [World.markPrior, Function.update_of_ne same] at present
    exact .inr ⟨object, present, rfl, rfl⟩

/-- No edit of the resource or of its connection makes the spec name another object while `held`. -/
def KeepsAddress (held : World K → Workload K.Spec → Prop) (w : World K) : Act K → Prop
  | .edit new => ∀ obj, w.cr = some obj → held w obj → w.address new = w.address obj
  | .changeConnection name manager =>
    ∀ obj, w.cr = some obj → held w obj → name = connectionRefName obj → manager = w.managers name
  | .reconcile .. | .delete _ | .changeMQ _ => True

variable [UnicodeTables]

/-- Steps of others than the operator: the resource keeps its status, an object inherits its record, and while the
spec names the same object nothing becomes prior. -/
structure OthersStep (w : World K) (act : Act K) : Prop where
  log : (w.next act).log = w.log
  released : (w.next act).released = w.released
  inherits : Inherits w.mq (w.next act).mq
  kept : ∀ after, (w.next act).cr = some after → ∃ obj, w.cr = some obj ∧ after.status = obj.status ∧
    obj.metadata.generation ≤ after.metadata.generation ∧
    (obj.metadata.deletionTimestamp.isSome = true → after.metadata.deletionTimestamp.isSome = true) ∧
    ∀ held, KeepsAddress held w act → held w obj →
      (w.next act).address after = w.address obj ∧ ForeignChange w.mq (w.next act).mq ∧
        ((w.next act).mq = w.mq ∨ act = .changeMQ (w.next act).mq)

theorem othersStep_edit {w : World K} {new : Workload K.Spec} (valid : w.Valid (.edit new)) :
    OthersStep w (.edit new) := by
  obtain ⟨stored, present, edit⟩ := valid
  have generation : stored.metadata.generation ≤ new.metadata.generation := by
    rcases edit.generation with ⟨-, same⟩ | ⟨-, bumped⟩
    · exact same.ge
    · omega
  have cr : (w.next (.edit new)).cr = retained new := by
    simp only [World.next]
    split <;> rfl
  have managers : (w.next (.edit new)).managers = w.managers := by
    simp only [World.next]
    split <;> rfl
  refine ⟨?_, ?_, ?_, ?_⟩
  · simp only [World.next]
    split <;> rfl
  · simp only [World.next]
    split <;> rfl
  · simp only [World.next]
    split
    · exact Inherits.refl w.mq
    · exact markPrior_inherits ({ w with cr := retained new } : World K) _
  · intro after stays
    have same : after = new := retained_eq_some (cr.symm.trans stays)
    subst same
    refine ⟨stored, present, edit.status, generation, ?_, ?_⟩
    · intro deleting
      rw [edit.deletion]
      exact deleting
    · intro held keeps holds
      have unmoved := keeps stored present holds
      have same : (w.next (.edit after)).mq = w.mq := by
        simp only [World.next, present, Option.map_some, unmoved, if_true]
      refine ⟨?_, ?_, .inl same⟩
      · rw [← unmoved, World.address, managers, World.address]
      · rw [same]
        exact fun _ => .inl rfl

theorem othersStep_delete {w : World K} {time : Nat} : OthersStep w (.delete time) := by
  refine ⟨rfl, rfl, Inherits.refl w.mq, ?_⟩
  intro after stays
  obtain ⟨obj, present, stays⟩ := Option.bind_eq_some_iff.mp stays
  have same := retained_eq_some stays
  subst same
  exact ⟨obj, present, rfl, Nat.le_succ _, fun _ => rfl, fun _ _ _ => ⟨rfl, fun _ => .inl rfl, .inl rfl⟩⟩

theorem othersStep_changeMQ {w : World K} {mq : ObjectAddress K → Option Provenance}
    (valid : w.Valid (.changeMQ mq)) : OthersStep w (.changeMQ mq) :=
  ⟨rfl, rfl, ForeignChange.inherits valid, fun after stays =>
    ⟨after, stays, rfl, le_rfl, id, fun _ _ _ => ⟨rfl, valid, .inr rfl⟩⟩⟩

theorem othersStep_changeConnection {w : World K} {name : String} {manager : ManagerAddress} :
    OthersStep w (.changeConnection name manager) := by
  cases present : w.cr with
  | none =>
    have same : w.next (.changeConnection name manager) =
        { w with managers := Function.update w.managers name manager } := by simp only [World.next, present]
    refine ⟨by rw [same], by rw [same], by rw [same]; exact Inherits.refl w.mq, ?_⟩
    intro after stays
    rw [same] at stays
    cases present.symm.trans stays
  | some obj =>
    have cr : (w.next (.changeConnection name manager)).cr = some obj := by
      simp only [World.next, present]
      split <;> rfl
    have managers : (w.next (.changeConnection name manager)).managers = Function.update w.managers name manager := by
      simp only [World.next, present]
      split <;> rfl
    refine ⟨?_, ?_, ?_, ?_⟩
    · simp only [World.next, present]
      split <;> rfl
    · simp only [World.next, present]
      split <;> rfl
    · simp only [World.next, present]
      split
      · exact Inherits.refl w.mq
      · exact markPrior_inherits ({ w with managers := Function.update w.managers name manager } : World K) _
    · intro after stays
      cases cr.symm.trans stays
      refine ⟨obj, present, rfl, le_rfl, id, ?_⟩
      intro held keeps holds
      have unmoved : Function.update w.managers name manager (connectionRefName obj) =
          w.managers (connectionRefName obj) := by
        by_cases named : name = connectionRefName obj
        · rw [named, Function.update_self, keeps obj present holds named, named]
        · rw [Function.update_of_ne (Ne.symm named)]
      have same : (w.next (.changeConnection name manager)).mq = w.mq := by
        simp only [World.next, present, World.address, unmoved, if_true]
      refine ⟨by rw [World.address, managers, unmoved, World.address], ?_, .inl same⟩
      rw [same]
      exact fun _ => .inl rfl

/-- The invariant rule for runs: reconciles are one case, the steps of others the other. -/
theorem lifecycle_invariant {allowed : World K → Act K → Prop} {first last : World K} (inv : World K → Prop)
    (run : (lifecycle K).Reach allowed first last) (initially : inv first)
    (byOperator : ∀ w env met, inv w → w.Valid (.reconcile env met) → allowed w (.reconcile env met) →
      inv (w.next (.reconcile env met)))
    (byOthers : ∀ w act, inv w → OthersStep w act → allowed w act → inv (w.next act)) : inv last := by
  refine run.invariant inv initially ?_
  intro w act holds valid permitted
  cases act with
  | reconcile env met => exact byOperator w env met holds valid permitted
  | edit new => exact byOthers w _ holds (othersStep_edit valid) permitted
  | delete time => exact byOthers w _ holds othersStep_delete permitted
  | changeMQ mq => exact byOthers w _ holds (othersStep_changeMQ valid) permitted
  | changeConnection name manager => exact byOthers w _ holds othersStep_changeConnection permitted

end Others

structure IsNew (obj : Workload K.Spec) : Prop where
  live : obj.metadata.deletionTimestamp = none
  generation : 0 < obj.metadata.generation
  unsynced : obj.status.observedGeneration = 0

/-- The world when the resource is created, with whatever others have put on the queue managers before. -/
def World.initial (obj : Workload K.Spec) (managers : String → ManagerAddress) (existing : ObjectAddress K → Bool) :
    World K where
  cr := some obj
  managers := managers
  mq target := if existing target then
      some ⟨false, false, target = (managers (connectionRefName obj), K.ident (K.toMQ obj.spec)), false⟩
    else none
  released := false
  log := []

end MKurator.Controller
