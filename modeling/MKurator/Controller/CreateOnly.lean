import MKurator.Controller.Ownership

/-! Resources that may only ever create: which objects their Define and Set calls can meet. -/

namespace MKurator.Controller
open MKurator.Api MKurator.MqAdmin MKurator.Lib MKurator.Lib.Strings

variable {K : Kind}

/-- Whatever is at `target` was not there before the spec came to name it. -/
def NothingPrior (mq : ObjectAddress K → Option Provenance) (target : ObjectAddress K) : Prop :=
  ∀ object, mq target = some object → object.prior = false

theorem NothingPrior.foreignChange {before after : ObjectAddress K → Option Provenance} {target : ObjectAddress K}
    (free : NothingPrior before target) (change : ForeignChange before after) : NothingPrior after target := by
  intro object present
  rcases change target with same | gone | made
  · exact free object (same.symm.trans present)
  · rw [gone] at present
    cases present
  · rw [made] at present
    cases present
    rfl

theorem NothingPrior.examined {w : World K} {target : ObjectAddress K} (free : NothingPrior w.mq target)
    (env : Env K.Spec K.MQSpec K.State) : NothingPrior (w.examined env) target := by
  intro object present
  obtain ⟨old, found, rfl | rfl⟩ := examined_eq_some present
  · exact free object found
  · exact free old found

theorem NothingPrior.defineAt {w : World K} {target : ObjectAddress K} (free : NothingPrior w.mq target)
    (answer : WriteAnswer) : NothingPrior (w.defineAt answer target).mq target := by
  intro object present
  unfold World.defineAt at present
  split at present
  · simp only [Function.update_self, Option.some.injEq] at present
    subst present
    cases before : w.mq target with
    | none => rfl
    | some old => exact free old before
  · exact free object present

theorem NothingPrior.deleteAt {w : World K} {target : ObjectAddress K} (free : NothingPrior w.mq target)
    (answer : DeleteAnswer) : NothingPrior (w.deleteAt answer target).mq target := by
  intro object present
  unfold World.deleteAt at present
  split at present
  · simp only [Function.update_self] at present
    cases present
  · exact free object present

/-- Before the first recorded sync, GET reports the object as missing only when it is. -/
def TruthfulGet (w : World K) : Act K → Prop
  | .reconcile env _ => ∀ obj admin, w.cr = some obj → Reaches K env obj admin →
      K.GetAnswered admin (K.toMQ obj.spec) → workloadFirstAdoption obj = true →
      K.observed admin (K.toMQ obj.spec) = none → w.mq (w.address obj) = none
  | _ => True

structure CreateOnlyGuard (w : World K) (act : Act K) : Prop where
  policy : ∀ obj, w.cr = some obj → workloadAdoptionPolicy obj = .failIfExists
  keeps : KeepsSyncedAddress w act
  loud : NoSilentAdoption w act
  truthful : TruthfulGet w act

def SyncedNothingPrior (w : World K) : Prop :=
  ∀ obj, w.cr = some obj → workloadFirstAdoption obj = false → NothingPrior w.mq (w.address obj)

theorem nothingPrior_of_unblocked {w : World K} {obj : Workload K.Spec} {env : Env K.Spec K.MQSpec K.State}
    {met : ObjectAddress K → Option Provenance} {admin : Admin K.MQSpec K.State} {keys : List String}
    (free : SyncedNothingPrior w) (valid : w.Valid (.reconcile env met)) (stored : w.cr = some obj)
    (policy : workloadAdoptionPolicy obj = .failIfExists) (truthful : TruthfulGet w (.reconcile env met))
    (reaches : Reaches K env obj admin) (answered : K.GetAnswered admin (K.toMQ obj.spec))
    (permitted : K.adoptionBlock keys obj (K.toMQ obj.spec) (K.observed admin (K.toMQ obj.spec)) = none) :
    NothingPrior met (w.address obj) := by
  have later : NothingPrior w.mq (w.address obj) → NothingPrior met (w.address obj) := fun nothing =>
    (nothing.examined env).foreignChange valid.2.2
  cases first : workloadFirstAdoption obj with
  | false => exact later (free obj stored first)
  | true =>
    rw [KindBase.adoptionBlock, adoptionBlockForExisting_eq_none_iff, policy, first] at permitted
    rcases permitted with synced | absent | adopts | ⟨matching, -⟩
    · cases synced
    · -- GET was right about the object, so whatever is there now was made since
      have missing := truthful obj admin stored reaches answered first (by simpa using absent)
      refine later fun object present => ?_
      cases missing.symm.trans present
    · cases adopts
    · cases matching

section Runs

variable [UnicodeTables]

theorem syncedNothingPrior_reconcile (w : World K) (env : Env K.Spec K.MQSpec K.State)
    (met : ObjectAddress K → Option Provenance) (free : SyncedNothingPrior w) (valid : w.Valid (.reconcile env met))
    (guarded : CreateOnlyGuard w (.reconcile env met)) : SyncedNothingPrior (w.next (.reconcile env met)) := by
  have later : ∀ target, NothingPrior w.mq target → NothingPrior met target := fun _ nothing =>
    (nothing.examined env).foreignChange valid.2.2
  rcases next_reconcile_cases w env met valid with ⟨-, same⟩ | ⟨obj, -, stored, outcome, frame, managers, -⟩
  · rw [same]
    intro obj stored synced
    exact later _ (free obj stored synced)
  intro kept stays synced
  rw [address_eq_of_storedAs frame managers stays]
  have policy := guarded.policy obj stored
  have unmoved : (w.next (.reconcile env met)).SyncedAt obj.status.observedGeneration →
      NothingPrior met (w.address obj) := by
    intro sync
    refine later _ (free obj stored ?_)
    rw [workloadFirstAdoption, ← sync kept stays]
    exact synced
  cases outcome with
  | silent mq released sync =>
    rw [mq]
    exact unmoved sync
  | orphaned deleting requested mq sync =>
    rw [mq]
    exact unmoved sync
  | deleting admin gate mq released sync =>
    rw [mq]
    exact NothingPrior.deleteAt (unmoved sync) _
  | synced admin keys gate seen unneeded permitted mq released sync =>
    rw [mq]
    rcases permitted with permitted | ⟨early, observing⟩
    · exact nothingPrior_of_unblocked free valid stored policy guarded.truthful gate.reaches seen.answered permitted
    · cases first : workloadFirstAdoption obj with
      | false => exact later _ (free obj stored first)
      | true =>
        have update := guarded.loud obj admin keys stored gate.reaches seen.resolved first policy early observing
        rw [unneeded] at update
        cases update
  | defined admin keys gate seen called needed permitted mq released sync =>
    rw [mq]
    exact NothingPrior.defineAt
      (nothingPrior_of_unblocked free valid stored policy guarded.truthful gate.reaches seen.answered permitted) _

theorem syncedNothingPrior_of_reach {obj : Workload K.Spec} (new : IsNew obj) (managers : String → ManagerAddress)
    (existing : ObjectAddress K → Bool) {w : World K}
    (run : (lifecycle K).Reach CreateOnlyGuard (World.initial obj managers existing) w) : SyncedNothingPrior w := by
  refine lifecycle_invariant SyncedNothingPrior run ?_ syncedNothingPrior_reconcile ?_
  · intro stored present synced
    cases present
    rw [workloadFirstAdoption_eq_false] at synced
    exact absurd new.unsynced synced
  · intro w act free others guarded after stays synced
    obtain ⟨before, stored, status, -, -, moved⟩ := others.kept after stays
    have recorded : workloadFirstAdoption before = false := by
      rw [workloadFirstAdoption, ← status]
      exact synced
    obtain ⟨address, change, -⟩ := moved _ guarded.keeps recorded
    rw [address]
    exact (free before stored recorded).foreignChange change

/-- In every run whose steps meet the guard, a Define or Set never meets an object that was there when the spec came to
name it and that the resource did not create. -/
theorem createOnly_never_overwrites (k : WorkloadKind) (obj : Workload (reconcilerOf k).Spec) (new : IsNew obj)
    (managers : String → ManagerAddress) (existing : ObjectAddress (reconcilerOf k) → Bool)
    (w : World (reconcilerOf k))
    (run : (lifecycle (reconcilerOf k)).Reach CreateOnlyGuard (World.initial obj managers existing) w)
    (env : Env (reconcilerOf k).Spec (reconcilerOf k).MQSpec (reconcilerOf k).State)
    (met : ObjectAddress (reconcilerOf k) → Option Provenance) (valid : w.Valid (.reconcile env met))
    (guarded : CreateOnlyGuard w (.reconcile env met)) (spec : (reconcilerOf k).MQSpec)
    (called : .define spec ∈ (reconcile (reconcilerOf k) env).calls) :
    ∃ stored, w.cr = some stored ∧ spec = (reconcilerOf k).toMQ stored.spec ∧
      NothingPrior met (w.address stored) := by
  cases read : env.object with
  | notFound e => simp [reconcile, read] at called
  | failed e => simp [reconcile, read] at called
  | found stored =>
    have present := valid.1 stored read
    rw [reconcile, read] at called
    obtain ⟨named, admin, keys, guard⟩ := define_guard (reconcilerOf k) env stored called
    refine ⟨stored, present, named, ?_⟩
    exact nothingPrior_of_unblocked (syncedNothingPrior_of_reach new managers existing run) valid present
      (guarded.policy stored present) guarded.truthful guard.connection guard.answered guard.unblocked

end Runs

section Cases

attribute [local instance] asciiTables

theorem new_queue_meets_nothing :
    let w := ordersWorld .failIfExists false
    ∃ stored, w.cr = some stored ∧ toMQQueueSpec (ordersQueue (some .failIfExists)).spec = toMQQueueSpec stored.spec ∧
      NothingPrior (w.examined (w.calm plainQueue .ok)) (w.address stored) := by
  intro w
  have guard : CreateOnlyGuard w (w.calmAct plainQueue .ok) :=
    ⟨fun obj present => by cases present; rfl, trivial, noSilentAdoption_of_acting (w := w) rfl (by decide) _ _,
      fun _ _ _ reaches _ _ missing => gone_of_calm rfl reaches missing⟩
  exact createOnly_never_overwrites .queue (ordersQueue (some .failIfExists)) ⟨rfl, by decide, rfl⟩
    (fun _ => calmManager) (fun _ => false) w .start _ _ (w.valid_calm plainQueue .ok rfl) guard _
    (.tail _ (.tail _ (.tail _ (.tail _ (.head _)))))

/-- A queue BILLING of someone else is there before the resource creates ORDERS. -/
def billingWorld : World queueReconciler :=
  World.initial (ordersQueue (some .failIfExists)) (fun _ => calmManager)
    fun target => (target.2 : String × String).2 == "BILLING"

def renamedToBilling : Workload Api.QueueSpec :=
  let stored := (calmStep billingWorld).cr.getD (ordersQueue none)
  { stored with
    metadata := { stored.metadata with generation := stored.metadata.generation + 1 }
    spec := { stored.spec with queueName := "BILLING", description := "orders" } }

/-- After the rename the next reconcile redefines BILLING, although the policy was to only ever create. -/
theorem renamed_queue_overwrites_foreign_object :
    (lifecycle queueReconciler).Reach (fun w _ => ∀ obj, w.cr = some obj → workloadAdoptionPolicy obj = .failIfExists)
        billingWorld ((calmStep billingWorld).next (.edit renamedToBilling)) ∧
      .define (toMQQueueSpec renamedToBilling.spec) ∈ (reconcile queueReconciler
        (((calmStep billingWorld).next (.edit renamedToBilling)).calm plainQueue .ok)).calls ∧
      workloadAdoptionPolicy renamedToBilling = .failIfExists ∧
      ((calmStep billingWorld).next (.edit renamedToBilling)).mq
        (calmManager, queueIdent (toMQQueueSpec renamedToBilling.spec)) =
          some { created := false, defined := false, prior := true, owned := false } := by
  refine ⟨?_, ?_, rfl, rfl⟩
  · have created : (lifecycle queueReconciler).Reach
        (fun w _ => ∀ obj, w.cr = some obj → workloadAdoptionPolicy obj = .failIfExists) billingWorld
        (calmStep billingWorld) :=
      calmStep_reach .start rfl fun obj present => by cases present; rfl
    refine created.step (.edit renamedToBilling) ⟨_, rfl, rfl, rfl, .inr ⟨?_, rfl⟩⟩
      fun obj present => by cases present; rfl
    intro same
    exact absurd (congrArg Api.QueueSpec.queueName same) (by decide)
  · exact .tail _ (.tail _ (.tail _ (.tail _ (.head _))))

end Cases

end MKurator.Controller
