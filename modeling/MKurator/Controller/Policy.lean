import MKurator.MqAdmin.Match

/-! What the workload reconcilers read off a resource: suspension, lifecycle policies, finalizers and conditions. -/

namespace MKurator.Controller
open MKurator.Api MKurator.MqAdmin MKurator.Lib.Strings

class WorkloadSpec (σ : Type) where
  shared : σ → SharedSpec

instance : WorkloadSpec Api.QueueSpec := ⟨Api.QueueSpec.toSharedSpec⟩
instance : WorkloadSpec Api.TopicSpec := ⟨Api.TopicSpec.toSharedSpec⟩
instance : WorkloadSpec Api.ChannelSpec := ⟨Api.ChannelSpec.toSharedSpec⟩
instance : WorkloadSpec ChannelAuthRuleSpec := ⟨ChannelAuthRuleSpec.toSharedSpec⟩
instance : WorkloadSpec AuthorityRecordSpec := ⟨AuthorityRecordSpec.toSharedSpec⟩

section Workload

variable {σ : Type}

def containsFinalizer (obj : Workload σ) (finalizer : String) : Bool := decide (finalizer ∈ obj.metadata.finalizers)

def addFinalizer (obj : Workload σ) (finalizer : String) : Workload σ :=
  if containsFinalizer obj finalizer then obj
  else { obj with metadata := { obj.metadata with finalizers := obj.metadata.finalizers ++ [finalizer] } }

def removeFinalizer (obj : Workload σ) (finalizer : String) : Workload σ :=
  { obj with metadata := { obj.metadata with finalizers := obj.metadata.finalizers.filter (· ≠ finalizer) } }

def isObserveOnly (obj : Workload σ) : Bool :=
  obj.metadata.annotations.get driftPolicyAnnotation == driftPolicyObserveOnly

def forceOrphanRequested (obj : Workload σ) : Bool :=
  obj.metadata.annotations.get forceOrphanAnnotation == "true"

/-- No status write has yet recorded a successful sync. -/
def workloadFirstAdoption (obj : Workload σ) : Bool := obj.status.observedGeneration == 0

variable [WorkloadSpec σ]

def connectionRefName (obj : Workload σ) : String := (WorkloadSpec.shared obj.spec).connectionRef

def workloadSuspended (obj : Workload σ) : Bool := (WorkloadSpec.shared obj.spec).suspend

def workloadDeletionPolicy (obj : Workload σ) : DeletionPolicy :=
  (WorkloadSpec.shared obj.spec).policies.deletionPolicy.getD .delete

def workloadAdoptionPolicy (obj : Workload σ) : AdoptionPolicy :=
  (WorkloadSpec.shared obj.spec).policies.adoptionPolicy.getD .adopt

def orphanDeletionRequested (obj : Workload σ) : Bool :=
  forceOrphanRequested obj || workloadDeletionPolicy obj == .orphan

end Workload

/-- `meta.SetStatusCondition`: the transition time moves only when the status does. -/
def setCondition (now : Nat) (type : String) (status : ConditionStatus) (reason message : String)
    (generation : Nat) : List Condition → List Condition
  | [] => [⟨type, status, reason, message, generation, now⟩]
  | c :: rest =>
    if c.type = type then
      ⟨type, status, reason, message, generation,
        if c.status = status then c.lastTransitionTime else now⟩ :: rest
    else c :: setCondition now type status reason message generation rest

def findCondition (conditions : List Condition) (type : String) : Option Condition :=
  conditions.find? (·.type = type)

def conditionChanged (conditions : List Condition) (type : String) (status : ConditionStatus)
    (reason : String) : Bool :=
  match findCondition conditions type with
  | some c => c.status != status || c.reason != reason
  | none => true

def conditionsReady (conditions : List Condition) : Bool :=
  conditions.any fun c => c.type == conditionReady && c.status == .conditionTrue

theorem findCondition_setCondition (now : Nat) (type : String) (status : ConditionStatus) (reason message : String)
    (generation : Nat) (conditions : List Condition) :
    (findCondition (setCondition now type status reason message generation conditions) type).map Condition.reason =
      some reason := by
  induction conditions with
  | nil => simp [setCondition, findCondition]
  | cons c rest ih =>
    rw [setCondition]
    by_cases same : c.type = type
    · simp [same, findCondition]
    · rw [if_neg same, findCondition, List.find?_cons_of_neg (by simpa using same)]
      exact ih

section Messages

variable [UnicodeTables]

def connectionWaitMessage (conn : QueueManagerConnection) : String :=
  let waiting := "waiting for connection " ++ quote conn.metadata.name
  match findCondition conn.conditions conditionReady with
  | none => waiting ++ " to become Ready"
  | some c =>
    if c.status = .conditionTrue then waiting ++ " to become Ready"
    else if c.reason ≠ "" ∧ c.message ≠ "" then waiting ++ ": " ++ c.reason ++ " — " ++ c.message
    else if c.message ≠ "" then waiting ++ ": " ++ c.message
    else if c.reason ≠ "" then waiting ++ " (" ++ c.reason ++ ")"
    else waiting ++ " to become Ready"

def classifyReconcileError (e : MqError) : String × String :=
  match e.asTerminal with
  | some (reason, message) =>
    (if reason.text = "" then reasonTerminalError else reason.text, if message = "" then e.text else message)
  | none =>
    if e.isConnectionNotFound then ("ConnectionNotFound", e.text)
    else if e.isSecretNotFound then ("SecretNotFound", e.text)
    else (reasonError, e.text)

def observeOnlyAuthDriftMessage (present : Bool) (objectName objectLabel : String) : String :=
  if !present then
    objectLabel ++ " for " ++ quote objectName ++ " not found on queue manager (observe-only; not applying)"
  else if objectLabel = "CHLAUTH rule" then "CHLAUTH on IBM MQ differs from spec (observe-only; not applying)"
  else if objectLabel = "authority record" then "AUTHREC on IBM MQ differs from spec (observe-only; not applying)"
  else objectLabel ++ " on IBM MQ differs from spec (observe-only; not applying)"

def attributeMismatchMessage (desired observed : StringMap) (driftKeys : List String) (objectLabel : String) : String :=
  let drifts := attributeDriftsForKeys desired observed driftKeys
  if drifts ≠ [] then formatAttributeDriftMessage drifts else objectLabel ++ " differs from spec"

end Messages

structure AdoptionBlockedError where
  reason : String
  message : String
  deriving DecidableEq, Repr

def adoptionBlockForExisting (policy : AdoptionPolicy) (firstAdoption present needsUpdate : Bool)
    (objectLabel mismatchMessage : String) : Option AdoptionBlockedError :=
  if !firstAdoption || !present then none
  else match policy with
    | .failIfExists => some ⟨reasonAlreadyExists, objectLabel ++ " already exists on queue manager"⟩
    | .adoptIfMatching =>
      if needsUpdate then
        some ⟨reasonAdoptionConflict, if mismatchMessage = "" then objectLabel ++ " differs from spec" else mismatchMessage⟩
      else none
    | .adopt => none

theorem adoptionBlockForExisting_eq_none_iff (policy : AdoptionPolicy) (firstAdoption present needsUpdate : Bool)
    (objectLabel mismatchMessage : String) :
    adoptionBlockForExisting policy firstAdoption present needsUpdate objectLabel mismatchMessage = none ↔
      firstAdoption = false ∨ present = false ∨ policy = .adopt ∨ (policy = .adoptIfMatching ∧ needsUpdate = false) := by
  cases policy <;> cases firstAdoption <;> cases present <;> cases needsUpdate <;> simp [adoptionBlockForExisting]

end MKurator.Controller
