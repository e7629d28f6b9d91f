import MKurator.Controller.FanOut
import MKurator.Lib.Fallible
import MKurator.Validation.Fields

/-! The resources that keep a connection from being deleted. -/

namespace MKurator.Validation
open MKurator.Api MKurator.MqAdmin MKurator.Lib MKurator.Lib.Strings MKurator.Controller

structure ConnectionDependent where
  kind : String
  name : String
  deriving DecidableEq, Repr

variable [UnicodeTables]

abbrev DependentLists := (k : WorkloadKind) → ListAnswer (Workload (reconcilerOf k).Spec)

def metadataNamePath : String := fieldPath ["metadata", "name"]

/-- The dependents of one kind. A kind that is not registered has no items. -/
def dependentsOfKind (lists : DependentLists) (connName : String) (k : WorkloadKind) :
    Except (List FieldError) (List ConnectionDependent) :=
  match lists k with
  | .failed e => .error [.internalAt metadataNamePath (.wrapped ("list " ++ (reconcilerOf k).kindName ++ "s") e)]
  | .notRegistered _ => .ok []
  | .items items =>
    .ok ((items.filter fun item => connectionRefName item == connName).map fun item =>
      ⟨(reconcilerOf k).kindName, item.metadata.name⟩)

/-- One List after the other; the first that fails ends it. -/
def listDependents (lists : DependentLists) (connName : String) :
    List WorkloadKind → List ConnectionDependent → Except (List FieldError) (List ConnectionDependent)
  | [], dependents => .ok dependents
  | k :: kinds, dependents => do
    let found ← dependentsOfKind lists connName k
    listDependents lists connName kinds (dependents ++ found)

def listConnectionDependents (lists : DependentLists) (connName : String) :
    Except (List FieldError) (List ConnectionDependent) :=
  listDependents lists connName dependentKinds []

def formatDependents (dependents : List ConnectionDependent) : String :=
  join (dependents.map fun d => d.kind ++ " " ++ quote d.name) ", "

def validateQueueManagerConnectionDeleteV1Beta1 (lists : String → DependentLists) (conn : QueueManagerConnection) :
    List FieldError :=
  match listConnectionDependents (lists conn.metadata.ns) conn.metadata.name with
  | .error errs => errs
  | .ok [] => []
  | .ok dependents =>
    [.invalidAt metadataNamePath conn.metadata.name ("cannot delete QueueManagerConnection " ++ quote conn.metadata.name ++
      ": " ++ formatDependents dependents ++ "; delete or re-point dependents first")]

def Depends (lists : DependentLists) (connName : String) (k : WorkloadKind) (item : Workload (reconcilerOf k).Spec) : Prop :=
  ∃ items, lists k = .items items ∧ item ∈ items ∧ connectionRefName item = connName

theorem mem_dependentsOfKind {lists : DependentLists} {connName : String} {k : WorkloadKind}
    {found : List ConnectionDependent} (listed : dependentsOfKind lists connName k = .ok found) (d : ConnectionDependent) :
    d ∈ found ↔ ∃ item, Depends lists connName k item ∧ d = ⟨(reconcilerOf k).kindName, item.metadata.name⟩ := by
  unfold dependentsOfKind at listed
  unfold Depends
  cases answer : lists k with
  | failed e =>
    rw [answer] at listed
    cases listed
  | notRegistered e =>
    rw [answer] at listed
    cases listed
    simp
  | items items =>
    rw [answer] at listed
    cases listed
    simp only [List.mem_map, List.mem_filter, beq_iff_eq, ListAnswer.items.injEq, exists_eq_left']
    constructor
    · rintro ⟨item, member, rfl⟩
      exact ⟨item, member, rfl⟩
    · rintro ⟨item, member, rfl⟩
      exact ⟨item, member, rfl⟩

theorem mem_listDependents {lists : DependentLists} {connName : String} {kinds : List WorkloadKind}
    {before found : List ConnectionDependent} (listed : listDependents lists connName kinds before = .ok found)
    (d : ConnectionDependent) :
    d ∈ found ↔ d ∈ before ∨ ∃ k ∈ kinds, ∃ item, Depends lists connName k item ∧
      d = ⟨(reconcilerOf k).kindName, item.metadata.name⟩ := by
  induction kinds generalizing before with
  | nil =>
    cases listed
    simp
  | cons k kinds ih =>
    obtain ⟨own, ofKind, rest⟩ := Fallible.exists_of_bind_ok listed
    rw [ih rest, List.mem_append, mem_dependentsOfKind ofKind, or_assoc, List.exists_mem_cons_iff]

theorem answered_of_listDependents {lists : DependentLists} {connName : String} {kinds : List WorkloadKind}
    {before found : List ConnectionDependent} (listed : listDependents lists connName kinds before = .ok found) :
    ∀ k ∈ kinds, ∀ e, lists k ≠ .failed e := by
  induction kinds generalizing before with
  | nil => exact fun _ member => absurd member List.not_mem_nil
  | cons first kinds ih =>
    obtain ⟨own, ofKind, rest⟩ := Fallible.exists_of_bind_ok listed
    intro k member e failed
    rcases List.mem_cons.mp member with rfl | later
    · rw [dependentsOfKind, failed] at ofKind
      cases ofKind
    · exact ih rest k later e failed

theorem ne_nil_of_listDependents {lists : DependentLists} {connName : String} {kinds : List WorkloadKind}
    {before : List ConnectionDependent} {errs : List FieldError}
    (failed : listDependents lists connName kinds before = .error errs) : errs ≠ [] := by
  induction kinds generalizing before with
  | nil => cases failed
  | cons k kinds ih =>
    rw [listDependents] at failed
    cases ofKind : dependentsOfKind lists connName k with
    | ok found =>
      rw [ofKind] at failed
      exact ih failed
    | error own =>
      rw [ofKind] at failed
      cases failed
      unfold dependentsOfKind at ofKind
      split at ofKind
      · cases ofKind
        exact List.cons_ne_nil _ _
      · cases ofKind
      · cases ofKind

/-- A List that fails refuses the deletion, and so does every resource listed that refers to the connection. -/
theorem validateQueueManagerConnectionDeleteV1Beta1_eq_nil {lists : String → DependentLists}
    {conn : QueueManagerConnection} (admitted : validateQueueManagerConnectionDeleteV1Beta1 lists conn = [])
    (k : WorkloadKind) :
    (∀ e, lists conn.metadata.ns k ≠ .failed e) ∧
      ∀ item, ¬ Depends (lists conn.metadata.ns) conn.metadata.name k item := by
  unfold validateQueueManagerConnectionDeleteV1Beta1 at admitted
  split at admitted
  next errs failed => exact absurd admitted (ne_nil_of_listDependents failed)
  next listed =>
    refine ⟨answered_of_listDependents listed k (mem_dependentKinds k), fun item depends => ?_⟩
    have member := (mem_listDependents listed ⟨(reconcilerOf k).kindName, item.metadata.name⟩).mpr
      (.inr ⟨k, mem_dependentKinds k, item, depends, rfl⟩)
    cases member
  next => cases admitted

end MKurator.Validation
