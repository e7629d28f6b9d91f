import MKurator.Controller.Recording

/-! What a resource leaves behind on the queue managers when the operator lets it go. -/

namespace MKurator.Controller
open MKurator.Api MKurator.MqAdmin MKurator.Lib MKurator.Lib.Strings

variable {K : Kind}

def World.HasDefined (w : World K) : Prop := ∃ target object, w.mq target = some object ∧ object.defined = true

theorem defined_of_inherits {before after : ObjectAddress K → Option Provenance} (inherits : Inherits before after)
    {target : ObjectAddress K} {object : Provenance} (present : after target = some object)
    (ours : object.defined = true) : ∃ old, before target = some old ∧ old.defined = true := by
  rcases inherits target object present with ⟨-, undefined⟩ | ⟨old, found, -, same⟩
  · rw [ours] at undefined
    cases undefined
  · exact ⟨old, found, same.symm.trans ours⟩

theorem hasDefined_of_inherits {w later : World K} (inherits : Inherits w.mq later.mq) (defined : later.HasDefined) :
    w.HasDefined := by
  obtain ⟨target, object, present, ours⟩ := defined
  obtain ⟨old, found, same⟩ := defined_of_inherits inherits present ours
  exact ⟨target, old, found, same⟩

/-- A Delete is forgiven, as one of a missing object, only if the object is missing. -/
def ForgivesMissing (w : World K) : Act K → Prop
  | .reconcile env met => ∀ obj admin, w.cr = some obj → Reaches K env obj admin →
      admin.delete (K.toMQ obj.spec) = .forgiven → met (w.address obj) = none
  | _ => True

/-- The resource is to be cleaned up after throughout, and its spec stays with what it defined. -/
structure CleanupGuard (w : World K) (act : Act K) : Prop where
  cleaned : ∀ obj, w.cr = some obj → orphanDeletionRequested obj = false
  keeps : KeepsAddress (fun w _ => w.HasDefined) w act
  forgives : ForgivesMissing w act

/-- All that was defined for the resource is what its spec names, and nothing of it is left once it is let go. -/
structure NoStrays (w : World K) : Prop where
  named : ∀ obj target object, w.cr = some obj → w.mq target = some object → object.defined = true →
    target = w.address obj
  gone : w.released = true → ¬w.HasDefined ∧
    ∀ obj, w.cr = some obj → obj.metadata.deletionTimestamp.isSome = true

theorem NoStrays.named_of_inherits {w : World K} (clean : NoStrays w) {obj : Workload K.Spec} (stored : w.cr = some obj)
    {after : ObjectAddress K → Option Provenance} (inherits : Inherits w.mq after) {target : ObjectAddress K}
    {object : Provenance} (present : after target = some object) (ours : object.defined = true) :
    target = w.address obj := by
  obtain ⟨old, found, defined⟩ := defined_of_inherits inherits present ours
  exact clean.named obj target old stored found defined

theorem defined_of_defineAt {w : World K} {answer : WriteAnswer} {target place : ObjectAddress K} {object : Provenance}
    (present : (w.defineAt answer target).mq place = some object) (ours : object.defined = true) :
    place = target ∨ ∃ old, w.mq place = some old ∧ old.defined = true := by
  by_cases same : place = target
  · exact .inl same
  · right
    unfold World.defineAt at present
    split at present
    · simp only [Function.update_of_ne same] at present
      exact ⟨object, present, ours⟩
    · exact ⟨object, present, ours⟩

theorem mq_deleteAt_of_success {w : World K} {answer : DeleteAnswer} {target : ObjectAddress K}
    (success : answer.err = none) (forgives : answer = .forgiven → w.mq target = none) :
    (w.deleteAt answer target).mq target = none := by
  rw [World.deleteAt_mq]
  cases answer with
  | ok => exact Function.update_self ..
  | forgiven => exact forgives rfl
  | failed e => cases success
  | lost e => cases success

section Runs

variable [UnicodeTables]

theorem noStrays_reconcile (w : World K) (env : Env K.Spec K.MQSpec K.State)
    (met : ObjectAddress K → Option Provenance) (clean : NoStrays w) (valid : w.Valid (.reconcile env met))
    (guarded : CleanupGuard w (.reconcile env met)) : NoStrays (w.next (.reconcile env met)) := by
  have change : Inherits w.mq met := World.Valid.inherits valid
  rcases next_reconcile_cases w env met valid with ⟨-, same⟩ | ⟨obj, -, stored, outcome, frame, managers, -⟩
  · rw [same]
    refine ⟨fun obj target object stored present ours => ?_, fun released => ?_⟩
    · exact clean.named_of_inherits stored change present ours
    · obtain ⟨nothing, deleting⟩ := clean.gone released
      exact ⟨fun defined => nothing (hasDefined_of_inherits change defined), deleting⟩
  -- whatever the outcome, what was defined before the step is where the spec points
  have before : ∀ target object, met target = some object → object.defined = true → target = w.address obj := by
    intro target object present ours
    exact clean.named_of_inherits stored change present ours
  have stillGone : Inherits w.mq (w.next (.reconcile env met)).mq → w.released = true →
      ¬(w.next (.reconcile env met)).HasDefined ∧
        ∀ kept, (w.next (.reconcile env met)).cr = some kept → kept.metadata.deletionTimestamp.isSome = true := by
    intro inherits released
    obtain ⟨nothing, deleting⟩ := clean.gone released
    refine ⟨?_, fun kept stays => (frame kept stays).2.2 ▸ deleting obj stored⟩
    intro defined
    exact nothing (hasDefined_of_inherits inherits defined)
  have quietly : (w.next (.reconcile env met)).mq = met → (w.next (.reconcile env met)).released = w.released →
      NoStrays (w.next (.reconcile env met)) := by
    intro mq released
    refine ⟨fun kept target object stays present ours => ?_, fun now => stillGone (mq.symm ▸ change) (released ▸ now)⟩
    rw [address_eq_of_storedAs frame managers stays]
    exact before target object (mq ▸ present) ours
  cases outcome with
  | silent mq released sync => exact quietly mq released
  | synced admin keys gate seen unneeded permitted mq released sync => exact quietly mq released
  | orphaned deleting requested mq sync =>
    rw [guarded.cleaned obj stored] at requested
    cases requested
  | defined admin keys gate seen called needed permitted mq released sync =>
    refine ⟨fun kept target object stays present ours => ?_, fun now => ?_⟩
    · rw [address_eq_of_storedAs frame managers stays]
      rw [mq] at present
      rcases defined_of_defineAt present ours with here | ⟨old, found, defined⟩
      · exact here
      · exact before target old found defined
    · have deleting := (clean.gone (released ▸ now)).2 obj stored
      rw [gate.live] at deleting
      cases deleting
  | deleting admin gate mq released sync =>
    have inherits : Inherits w.mq (w.next (.reconcile env met)).mq := by
      rw [mq]
      exact change.trans (deleteAt_inherits _ _ _)
    refine ⟨fun kept target object stays present ours => ?_, fun now => ?_⟩
    · rw [address_eq_of_storedAs frame managers stays]
      exact clean.named_of_inherits stored inherits present ours
    · rcases released with same | success
      · exact stillGone inherits (same ▸ now)
      · refine ⟨?_, fun kept stays => (frame kept stays).2.2 ▸ gate.deleting⟩
        rintro ⟨target, object, present, ours⟩
        have here := clean.named_of_inherits stored inherits present ours
        rw [mq, here, mq_deleteAt_of_success success fun answer => guarded.forgives obj admin stored gate.reaches answer]
          at present
        cases present

theorem noStrays_of_reach {obj : Workload K.Spec} (managers : String → ManagerAddress)
    (existing : ObjectAddress K → Bool) {w : World K}
    (run : (lifecycle K).Reach CleanupGuard (World.initial obj managers existing) w) : NoStrays w := by
  refine lifecycle_invariant NoStrays run ?_ noStrays_reconcile ?_
  · refine ⟨fun stored target object present there ours => ?_, fun released => by cases released⟩
    simp only [World.initial] at there
    split at there
    · cases there
      cases ours
    · cases there
  · intro w act clean others guarded
    refine ⟨fun after target object stays present ours => ?_, fun released => ?_⟩
    · obtain ⟨before, stored, -, -, -, moved⟩ := others.kept after stays
      obtain ⟨old, found, defined⟩ := defined_of_inherits others.inherits present ours
      rw [(moved _ guarded.keeps ⟨target, old, found, defined⟩).1]
      exact clean.named before target old stored found defined
    · obtain ⟨nothing, deleting⟩ := clean.gone (others.released ▸ released)
      refine ⟨?_, fun after stays => ?_⟩
      · intro defined
        exact nothing (hasDefined_of_inherits others.inherits defined)
      · obtain ⟨before, stored, -, -, still, -⟩ := others.kept after stays
        exact still (deleting before stored)

/-- In every run whose steps meet the guard, once the operator has removed its finalizer nothing that it defined for the
resource is left on any queue manager. -/
theorem released_leaves_nothing (k : WorkloadKind) (obj : Workload (reconcilerOf k).Spec)
    (managers : String → ManagerAddress) (existing : ObjectAddress (reconcilerOf k) → Bool)
    (w : World (reconcilerOf k))
    (run : (lifecycle (reconcilerOf k)).Reach CleanupGuard (World.initial obj managers existing) w)
    (released : w.released = true) :
    ∀ target object, w.mq target = some object → object.defined = false := by
  intro target object present
  by_contra ours
  exact ((noStrays_of_reach managers existing run).gone released).1 ⟨target, object, present, by simpa using ours⟩

end Runs

section Cases

attribute [local instance] asciiTables

theorem cleanupGuard_calm {w : World K} {obj : Workload K.Spec} (stored : w.cr = some obj)
    (cleaned : orphanDeletionRequested obj = false) (state : K.State) (status : WriteAnswer) :
    CleanupGuard w (w.calmAct state status) := by
  refine ⟨fun other present => ?_, trivial, fun other admin present reaches forgiven => ?_⟩
  · cases stored.symm.trans present
    exact cleaned
  · obtain ⟨conn, -, -, port⟩ := reaches
    obtain rfl : w.calmPort state = admin := Except.ok.inj port
    cases forgiven

theorem deleted_queue_leaves_nothing :
    (calmStep (deletedOrders .adopt false)).released = true ∧
      ∀ target object, (calmStep (deletedOrders .adopt false)).mq target = some object → object.defined = false := by
  have created : (lifecycle queueReconciler).Reach CleanupGuard (ordersWorld .adopt false)
      (calmStep (ordersWorld .adopt false)) :=
    calmStep_reach .start rfl (cleanupGuard_calm rfl (by decide) plainQueue .ok)
  have deleted : (lifecycle queueReconciler).Reach CleanupGuard (ordersWorld .adopt false) (deletedOrders .adopt false) :=
    created.step (.delete 100) ⟨_, rfl, rfl⟩ ⟨fun obj present => by cases present; rfl, trivial, trivial⟩
  have cleaned : (lifecycle queueReconciler).Reach CleanupGuard (ordersWorld .adopt false)
      (calmStep (deletedOrders .adopt false)) :=
    calmStep_reach deleted rfl (cleanupGuard_calm (w := deletedOrders .adopt false) rfl rfl plainQueue .ok)
  exact ⟨rfl, released_leaves_nothing .queue (ordersQueue (some .adopt)) (fun _ => calmManager) (fun _ => false)
    (calmStep (deletedOrders .adopt false)) cleaned rfl⟩

def renamedOrders : Workload Api.QueueSpec :=
  let stored := (calmStep (ordersWorld .adopt false)).cr.getD (ordersQueue none)
  { stored with
    metadata := { stored.metadata with generation := stored.metadata.generation + 1 }
    spec := { stored.spec with queueName := "ORDERS.V2" } }

def renamedThenDeleted : World queueReconciler :=
  calmStep (((calmStep (ordersWorld .adopt false)).next (.edit renamedOrders)).next (.delete 100))

/-- The operator lets the resource go, and the queue that it created under the old name stays. -/
theorem renamed_queue_left_behind :
    (lifecycle queueReconciler).Reach (fun w _ => ∀ obj, w.cr = some obj → orphanDeletionRequested obj = false)
        (ordersWorld .adopt false) renamedThenDeleted ∧
      renamedThenDeleted.released = true ∧ renamedThenDeleted.cr.isNone = true ∧
      renamedThenDeleted.mq (calmManager, queueIdent (toMQQueueSpec (ordersQueue none).spec)) =
        some { created := true, defined := true, prior := false, owned := true } := by
  refine ⟨?_, rfl, rfl, rfl⟩
  have created : (lifecycle queueReconciler).Reach
      (fun w _ => ∀ obj, w.cr = some obj → orphanDeletionRequested obj = false) (ordersWorld .adopt false)
      (calmStep (ordersWorld .adopt false)) :=
    calmStep_reach .start rfl fun obj present => by cases present; decide
  have renamed := created.step (.edit renamedOrders) ⟨_, rfl, rfl, rfl, .inr ⟨fun same =>
    absurd (congrArg Api.QueueSpec.queueName same) (by decide), rfl⟩⟩ fun obj present => by cases present; rfl
  have deleted := renamed.step (.delete 100) ⟨_, rfl, rfl⟩ fun obj present => by cases present; rfl
  exact calmStep_reach deleted rfl fun obj present => by cases present; rfl

end Cases

end MKurator.Controller
