import MKurator.Controller.Outcome

/-! Which objects a resource may delete, and which it may overwrite. The operator infers ownership from
`status.observedGeneration`; the results here say what has to hold for that inference to be right. -/

namespace MKurator.Controller
open MKurator.Api MKurator.MqAdmin MKurator.Lib MKurator.Lib.Strings

variable {K : Kind}

/-- No resource that may only ever create is told to observe an existing object that matches, before its first sync. -/
def NoSilentAdoption (w : World K) : Act K → Prop
  | .reconcile env _ => ∀ obj admin keys, w.cr = some obj → Reaches K env obj admin →
      K.driftKeys admin (K.toMQ obj.spec) = .ok keys → workloadFirstAdoption obj = true →
      workloadAdoptionPolicy obj = .failIfExists → K.observeOnlyFirst = true → isObserveOnly obj = true →
      K.needsUpdate keys (K.toMQ obj.spec) (K.observed admin (K.toMQ obj.spec)) = true
  | _ => True

/-- The resource keeps naming the same object from its first recorded sync on. -/
def KeepsSyncedAddress (w : World K) (act : Act K) : Prop :=
  KeepsAddress (fun _ obj => workloadFirstAdoption obj = false) w act

theorem workloadFirstAdoption_eq_false {obj : Workload K.Spec} :
    workloadFirstAdoption obj = false ↔ obj.status.observedGeneration ≠ 0 := by
  simp [workloadFirstAdoption]

def OwnedAt (mq : ObjectAddress K → Option Provenance) (target : ObjectAddress K) : Prop :=
  ∀ object, mq target = some object → object.owned = true

namespace OwnedAt

variable {w : World K} {target : ObjectAddress K}

theorem examined (owned : OwnedAt w.mq target) (env : Env K.Spec K.MQSpec K.State) : OwnedAt (w.examined env) target := by
  intro object present
  obtain ⟨old, found, rfl | rfl⟩ := examined_eq_some present
  · exact owned object found
  · rfl

theorem kept {before after : ObjectAddress K → Option Provenance} (owned : OwnedAt before target)
    (left : after target = before target ∨ after target = none) : OwnedAt after target := by
  intro object present
  rcases left with same | gone
  · exact owned object (same.symm.trans present)
  · rw [gone] at present
    cases present

theorem defineAt (owned : OwnedAt w.mq target) (answer : WriteAnswer) : OwnedAt (w.defineAt answer target).mq target := by
  intro object present
  unfold World.defineAt at present
  split at present
  · simp only [Function.update_self, Option.some.injEq] at present
    subst present
    cases before : w.mq target with
    | none => rfl
    | some old => exact owned old before
  · exact owned object present

theorem deleteAt (owned : OwnedAt w.mq target) (answer : DeleteAnswer) : OwnedAt (w.deleteAt answer target).mq target := by
  intro object present
  unfold World.deleteAt at present
  split at present
  · simp only [Function.update_self] at present
    cases present
  · exact owned object present

end OwnedAt

/-- Once a sync is recorded, or while the resource takes the object over, nobody else puts a new object in its place. -/
def Undisturbed (w : World K) : Act K → Prop
  | .reconcile env met => ∀ obj, w.cr = some obj → workloadFirstAdoption obj = false ∨ takesOver env obj = true →
      met (w.address obj) = w.examined env (w.address obj) ∨ met (w.address obj) = none
  | .changeMQ mq => ∀ obj, w.cr = some obj → workloadFirstAdoption obj = false →
      mq (w.address obj) = w.mq (w.address obj) ∨ mq (w.address obj) = none
  | _ => True

/-- Before the first recorded sync, GET reports the object as missing only if the writes that follow meet none. -/
def MissesRightly (w : World K) : Act K → Prop
  | .reconcile env met => ∀ obj admin, w.cr = some obj → Reaches K env obj admin →
      K.GetAnswered admin (K.toMQ obj.spec) → workloadFirstAdoption obj = true →
      K.observed admin (K.toMQ obj.spec) = none → met (w.address obj) = none
  | _ => True

/-- A reconcile gets to delete an object only after a recorded sync. -/
def DeletesSynced (w : World K) : Act K → Prop
  | .reconcile _ _ => ∀ obj, w.cr = some obj → obj.metadata.deletionTimestamp.isSome = true →
      orphanDeletionRequested obj = false → workloadFirstAdoption obj = false
  | _ => True

structure OwnershipGuard (w : World K) (act : Act K) : Prop where
  keeps : KeepsSyncedAddress w act
  loud : NoSilentAdoption w act
  undisturbed : Undisturbed w act
  missing : MissesRightly w act
  synced : DeletesSynced w act

def SyncedOwns (w : World K) : Prop :=
  ∀ obj, w.cr = some obj → workloadFirstAdoption obj = false → OwnedAt w.mq (w.address obj)

section TakingOver

variable {w : World K} {obj : Workload K.Spec} {env : Env K.Spec K.MQSpec K.State} {admin : Admin K.MQSpec K.State}
  {keys : List String} {state : K.State}

theorem takesOver_of_admits (gate : EnsureGate K env obj admin) (seen : Observation K obj admin keys)
    (found : K.observed admin (K.toMQ obj.spec) = some state)
    (admits : policyAdmits (workloadAdoptionPolicy obj) (!K.differs keys (K.toMQ obj.spec) state) = true) :
    takesOver env obj = true := by
  obtain ⟨text, formatted⟩ := seen.rendered
  have port := (reaches_iff K env obj admin).mp gate.reaches
  have answered : (admin.get (K.toMQ obj.spec)).2.all MqError.isNotFound = true := by
    cases failure : (admin.get (K.toMQ obj.spec)).2 with
    | none => rfl
    | some e => exact seen.answered e failure
  have shown : admin.get (K.toMQ obj.spec) = (some state, (admin.get (K.toMQ obj.spec)).2) := Prod.ext found rfl
  rw [takesOver, port]
  simp only [gate.unsuspended, gate.live, gate.supported, formatted, seen.resolved, containsFinalizer, gate.finalizer]
  rw [shown]
  simp [answered, admits, Except.toOption]

theorem takesOver_of_permitted (gate : EnsureGate K env obj admin) (seen : Observation K obj admin keys)
    (found : K.observed admin (K.toMQ obj.spec) = some state)
    (permitted : K.adoptionBlock keys obj (K.toMQ obj.spec) (K.observed admin (K.toMQ obj.spec)) = none)
    (first : workloadFirstAdoption obj = true) : takesOver env obj = true := by
  refine takesOver_of_admits gate seen found ?_
  rw [KindBase.adoptionBlock, adoptionBlockForExisting_eq_none_iff, found] at permitted
  rcases permitted with recorded | absent | adopts | ⟨matching, same⟩
  · rw [first] at recorded
    cases recorded
  · cases absent
  · rw [adopts]
    rfl
  · rw [matching, show K.differs keys (K.toMQ obj.spec) state = false from same]
    rfl

/-- The policy need not be asked where the object already matches, unless the policy wants no object at all. -/
theorem takesOver_of_inSync (gate : EnsureGate K env obj admin) (seen : Observation K obj admin keys)
    (found : K.observed admin (K.toMQ obj.spec) = some state)
    (unneeded : K.needsUpdate keys (K.toMQ obj.spec) (K.observed admin (K.toMQ obj.spec)) = false)
    (adopting : workloadAdoptionPolicy obj ≠ .failIfExists) : takesOver env obj = true := by
  refine takesOver_of_admits gate seen found ?_
  have matching : K.differs keys (K.toMQ obj.spec) state = false := by
    simpa [KindBase.needsUpdate, found] using unneeded
  cases policy : workloadAdoptionPolicy obj with
  | adopt => rfl
  | adoptIfMatching =>
    rw [matching]
    rfl
  | failIfExists => exact absurd policy adopting

theorem ownedAt_of_takesOver (read : env.object = .found obj) (takes : takesOver env obj = true) :
    OwnedAt (w.examined env) (w.address obj) := by
  intro object present
  simp only [World.examined, read, takes, if_true, Function.update_self] at present
  obtain ⟨old, -, rfl⟩ := Option.map_eq_some_iff.mp present
  rfl

theorem ownedAt_met {met : ObjectAddress K → Option Provenance} (owned : SyncedOwns w) (read : env.object = .found obj)
    (stored : w.cr = some obj) (undisturbed : Undisturbed w (.reconcile env met))
    (how : workloadFirstAdoption obj = false ∨ takesOver env obj = true) : OwnedAt met (w.address obj) := by
  refine OwnedAt.kept ?_ (undisturbed obj stored how)
  rcases how with synced | takes
  · exact (owned obj stored synced).examined env
  · exact ownedAt_of_takesOver read takes

end TakingOver

section Deletes

variable [UnicodeTables]

theorem syncedOwns_reconcile (w : World K) (env : Env K.Spec K.MQSpec K.State)
    (met : ObjectAddress K → Option Provenance) (owned : SyncedOwns w) (valid : w.Valid (.reconcile env met))
    (guarded : OwnershipGuard w (.reconcile env met)) : SyncedOwns (w.next (.reconcile env met)) := by
  rcases next_reconcile_cases w env met valid with ⟨unread, same⟩ | ⟨obj, read, stored, outcome, frame, managers, -⟩
  · rw [same]
    intro obj stored synced
    exact ((owned obj stored synced).examined env).kept (guarded.undisturbed obj stored (.inl synced))
  intro kept stays synced
  rw [address_eq_of_storedAs frame managers stays]
  have takenOver : takesOver env obj = true → OwnedAt met (w.address obj) := fun takes =>
    ownedAt_met owned read stored guarded.undisturbed (.inr takes)
  -- an outcome that moves no sync finds one on record, if there is one afterwards
  have unmoved : (w.next (.reconcile env met)).SyncedAt obj.status.observedGeneration →
      OwnedAt met (w.address obj) := by
    intro sync
    refine ownedAt_met owned read stored guarded.undisturbed (.inl ?_)
    rw [workloadFirstAdoption, ← sync kept stays]
    exact synced
  cases outcome with
  | silent mq released sync =>
    rw [mq]
    exact unmoved sync
  | orphaned deleting requested mq sync =>
    rw [mq]
    exact unmoved sync
  | deleting admin gate mq released sync =>
    rw [mq]
    exact OwnedAt.deleteAt (unmoved sync) _
  | synced admin keys gate seen unneeded permitted mq released sync =>
    rw [mq]
    cases first : workloadFirstAdoption obj with
    | false => exact ownedAt_met owned read stored guarded.undisturbed (.inl first)
    | true =>
      cases found : K.observed admin (K.toMQ obj.spec) with
      | none =>
        rw [found] at unneeded
        cases unneeded
      | some state =>
        rcases permitted with permitted | ⟨earlyLook, observing⟩
        · exact takenOver (takesOver_of_permitted gate seen found permitted first)
        · -- the adoption policy was not asked, so the match itself has to be enough for it
          refine takenOver (takesOver_of_inSync gate seen found unneeded fun policy => ?_)
          have update := guarded.loud obj admin keys stored gate.reaches seen.resolved first policy earlyLook observing
          exact absurd (update.symm.trans unneeded) Bool.true_eq_false.mp
  | defined admin keys gate seen called needed permitted mq released sync =>
    rw [mq]
    refine OwnedAt.defineAt ?_ _
    cases first : workloadFirstAdoption obj with
    | false => exact ownedAt_met owned read stored guarded.undisturbed (.inl first)
    | true =>
      cases found : K.observed admin (K.toMQ obj.spec) with
      | none =>
        have missing := guarded.missing obj admin stored gate.reaches seen.answered first found
        intro object present
        cases missing.symm.trans present
      | some state => exact takenOver (takesOver_of_permitted gate seen found permitted first)

theorem syncedOwns_of_reach {obj : Workload K.Spec} (new : IsNew obj) (managers : String → ManagerAddress)
    (existing : ObjectAddress K → Bool) {w : World K}
    (run : (lifecycle K).Reach OwnershipGuard (World.initial obj managers existing) w) : SyncedOwns w := by
  refine lifecycle_invariant SyncedOwns run ?_ syncedOwns_reconcile ?_
  · intro stored present synced
    cases present
    rw [workloadFirstAdoption_eq_false] at synced
    exact absurd new.unsynced synced
  · intro w act owned others guarded after stays synced
    obtain ⟨before, stored, status, -, -, moved⟩ := others.kept after stays
    have recorded : workloadFirstAdoption before = false := by
      rw [workloadFirstAdoption, ← status]
      exact synced
    obtain ⟨address, -, unchanged | changed⟩ := moved _ guarded.keeps recorded
    · rw [address, unchanged]
      exact owned before stored recorded
    · have undisturbed := guarded.undisturbed
      rw [changed] at undisturbed
      rw [address]
      exact (owned before stored recorded).kept (undisturbed before stored recorded)

/-- In every run whose steps meet the guard, an object that a reconcile's Delete meets was made by the resource or taken
over by it as its adoption policy allowed. -/
theorem delete_only_owned (k : WorkloadKind) (obj : Workload (reconcilerOf k).Spec) (new : IsNew obj)
    (managers : String → ManagerAddress) (existing : ObjectAddress (reconcilerOf k) → Bool)
    (w : World (reconcilerOf k))
    (run : (lifecycle (reconcilerOf k)).Reach OwnershipGuard (World.initial obj managers existing) w)
    (env : Env (reconcilerOf k).Spec (reconcilerOf k).MQSpec (reconcilerOf k).State)
    (met : ObjectAddress (reconcilerOf k) → Option Provenance) (valid : w.Valid (.reconcile env met))
    (guarded : OwnershipGuard w (.reconcile env met)) (spec : (reconcilerOf k).MQSpec)
    (called : .delete spec ∈ (reconcile (reconcilerOf k) env).calls) :
    ∃ stored, w.cr = some stored ∧ spec = (reconcilerOf k).toMQ stored.spec ∧
      ∀ object, met (w.address stored) = some object → object.owned = true := by
  cases read : env.object with
  | notFound e => simp [reconcile, read] at called
  | failed e => simp [reconcile, read] at called
  | found stored =>
    have present := valid.1 stored read
    rw [reconcile, read] at called
    obtain ⟨named, admin, gate⟩ := delete_guard (reconcilerOf k) env stored called
    have synced := guarded.synced stored present gate.deleting gate.notOrphaned
    refine ⟨stored, present, named, ?_⟩
    exact ownedAt_met (syncedOwns_of_reach new managers existing run) read present guarded.undisturbed (.inl synced)

end Deletes

section Cases

attribute [local instance] asciiTables

def plainQueue : QueueState where
  name := "ORDERS"
  attributes := ∅

def ordersWorld (policy : AdoptionPolicy) (existing : Bool) : World queueReconciler :=
  World.initial (ordersQueue (some policy)) (fun _ => calmManager) fun _ => existing

def calmStep (w : World queueReconciler) : World queueReconciler := w.next (w.calmAct plainQueue .ok)

def deletedOrders (policy : AdoptionPolicy) (existing : Bool) : World queueReconciler :=
  (calmStep (ordersWorld policy existing)).next (.delete 100)

theorem calmStep_reach {allowed : World queueReconciler → Act queueReconciler → Prop}
    {first last : World queueReconciler} (run : (lifecycle queueReconciler).Reach allowed first last)
    (managers : last.managers = fun _ => calmManager) (permitted : allowed last (last.calmAct plainQueue .ok)) :
    (lifecycle queueReconciler).Reach allowed first (calmStep last) :=
  reach_calm run plainQueue .ok managers permitted

theorem noSilentAdoption_of_acting {w : World K} {obj : Workload K.Spec} (stored : w.cr = some obj)
    (acting : isObserveOnly obj = false) (env : Env K.Spec K.MQSpec K.State)
    (met : ObjectAddress K → Option Provenance) : NoSilentAdoption w (.reconcile env met) := by
  intro other admin keys present reaches resolved first policy early observing
  cases stored.symm.trans present
  rw [acting] at observing
  cases observing

theorem gone_of_calm {w : World K} {state : K.State} {status : WriteAnswer} {obj : Workload K.Spec}
    {admin : Admin K.MQSpec K.State} (managers : w.managers = fun _ => calmManager)
    (reaches : Reaches K (w.calm state status) obj admin) (missing : K.observed admin (K.toMQ obj.spec) = none) :
    w.mq (w.address obj) = none := by
  obtain ⟨conn, -, -, port⟩ := reaches
  obtain rfl : w.calmPort state = admin := Except.ok.inj port
  rw [KindBase.observed, World.calmPort] at missing
  rw [World.address, managers]
  cases there : w.mq (calmManager, K.ident (K.toMQ obj.spec)) with
  | none => rfl
  | some object => simp [there] at missing

theorem missesRightly_calm {w : World K} (state : K.State) (status : WriteAnswer)
    (managers : w.managers = fun _ => calmManager) : MissesRightly w (w.calmAct state status) := by
  intro obj admin stored reaches answered first missing
  cases seen : w.examined (w.calm state status) (w.address obj) with
  | none => rfl
  | some object =>
    obtain ⟨old, found, -⟩ := examined_eq_some seen
    cases (gone_of_calm managers reaches missing).symm.trans found

theorem ownershipGuard_calm {w : World K} {obj : Workload K.Spec} (stored : w.cr = some obj)
    (acting : isObserveOnly obj = false)
    (backed : obj.metadata.deletionTimestamp = none ∨ workloadFirstAdoption obj = false) (state : K.State)
    (status : WriteAnswer) (managers : w.managers = fun _ => calmManager) :
    OwnershipGuard w (w.calmAct state status) := by
  refine ⟨trivial, noSilentAdoption_of_acting stored acting _ _, fun _ _ _ => .inl rfl,
    missesRightly_calm state status managers, ?_⟩
  intro other present deleting requested
  cases stored.symm.trans present
  rcases backed with live | synced
  · rw [live] at deleting
    cases deleting
  · exact synced

theorem created_queue_deleted_by_owner :
    let w := deletedOrders .failIfExists false
    ∃ stored object, w.cr = some stored ∧ toMQQueueSpec (ordersQueue (some .failIfExists)).spec = toMQQueueSpec stored.spec ∧
      w.examined (w.calm plainQueue .ok) (w.address stored) = some object ∧ object.owned = true := by
  intro w
  have created : (lifecycle queueReconciler).Reach OwnershipGuard (ordersWorld .failIfExists false)
      (calmStep (ordersWorld .failIfExists false)) :=
    calmStep_reach .start rfl (ownershipGuard_calm rfl (by decide) (.inl rfl) plainQueue .ok rfl)
  have run := created.step (.delete 100) ⟨_, rfl, rfl⟩ ⟨trivial, trivial, trivial, trivial, trivial⟩
  have guard : OwnershipGuard w (w.calmAct plainQueue .ok) :=
    ownershipGuard_calm (w := w) rfl rfl (.inr rfl) plainQueue .ok rfl
  obtain ⟨stored, present, named, owned⟩ := delete_only_owned .queue (ordersQueue (some .failIfExists))
    ⟨rfl, by decide, rfl⟩ (fun _ => calmManager) (fun _ => false) w run _ _ (w.valid_calm plainQueue .ok rfl) guard _
    (.tail _ (.tail _ (.tail _ (.tail _ (.head _)))))
  cases present
  exact ⟨_, _, rfl, named, rfl, owned _ rfl⟩

/-- A resource that was only ever blocked by a queue of others deletes that queue when it is deleted itself. -/
theorem blocked_queue_deletes_foreign_object :
    let w := deletedOrders .failIfExists true
    (lifecycle queueReconciler).Reach (fun _ _ => True) (ordersWorld .failIfExists true) w ∧
      w.Valid (.reconcile (w.calm plainQueue .ok) (w.examined (w.calm plainQueue .ok))) ∧
      .delete (toMQQueueSpec (ordersQueue (some .failIfExists)).spec) ∈
        (reconcile queueReconciler (w.calm plainQueue .ok)).calls ∧
      ∀ stored, w.cr = some stored →
        syncedReason stored = some reasonAlreadyExists ∧ workloadAdoptionPolicy stored = .failIfExists ∧
          w.examined (w.calm plainQueue .ok) (w.address stored) =
            some { created := false, defined := false, prior := true, owned := false } := by
  intro w
  refine ⟨?_, w.valid_calm plainQueue .ok rfl, ?_, ?_⟩
  · have blocked : (lifecycle queueReconciler).Reach (fun _ _ => True) (ordersWorld .failIfExists true)
        (calmStep (ordersWorld .failIfExists true)) := calmStep_reach .start rfl trivial
    exact blocked.step (.delete 100) ⟨_, rfl, rfl⟩ trivial
  · exact .tail _ (.tail _ (.tail _ (.tail _ (.head _))))
  · intro stored present
    cases present
    exact ⟨rfl, rfl, rfl⟩

end Cases

end MKurator.Controller
