import MKurator.Controller.WatchFilter

/-! The watch of the workload controllers on queue manager connections: which changes of a connection pass its filter, and
which resources each of them puts on the work queues. -/

namespace MKurator.Controller
open MKurator.Api MKurator.MqAdmin MKurator.Lib MKurator.Lib.Strings

structure Request where
  ns : String
  name : String
  deriving DecidableEq, Repr

section Predicates

def connectionReady (conn : QueueManagerConnection) : Bool := conditionsReady conn.conditions

def connectionReadyChanged (old new : QueueManagerConnection) : Bool := connectionReady old != connectionReady new

/-- `none` before a creation and after a deletion. The filter has no rule for deletions, so that they pass. -/
def connectionWatchPredicates : Option QueueManagerConnection → Option QueueManagerConnection → Bool
  | none, none => false
  | none, some new => connectionReady new
  | some _, none => true
  | some old, some new => connectionReadyChanged old new || old.metadata.generation != new.metadata.generation

def isReady (conn : Option QueueManagerConnection) : Bool := conn.any connectionReady

/-- A connection never turns ready behind the filter's back. -/
theorem connectionWatchPredicates_of_turnsReady {old new : Option QueueManagerConnection} (before : isReady old = false)
    (after : isReady new = true) : connectionWatchPredicates old new = true := by
  cases new with
  | none => cases after
  | some conn =>
    have ready : connectionReady conn = true := after
    cases old with
    | none => exact ready
    | some previous =>
      have unready : connectionReady previous = false := before
      simp [connectionWatchPredicates, connectionReadyChanged, ready, unready]

end Predicates

/-- The order in which `requestsForConnection` lists the kinds. -/
def dependentKinds : List WorkloadKind := [.queue, .topic, .channel, .channelAuthRule, .authorityRecord]

theorem mem_dependentKinds (k : WorkloadKind) : k ∈ dependentKinds := by
  cases k <;> decide

section Requests

variable [UnicodeTables]

abbrev WorkloadLists := (k : WorkloadKind) → Except MqError (List (Workload (reconcilerOf k).Spec))

def appendListDependents (lists : WorkloadLists) (ns connName : String) (k : WorkloadKind) (reqs : List Request) :
    List Request × Option MqError :=
  match lists k with
  | .error e => (reqs, some (.wrapped ("list " ++ (reconcilerOf k).kindName) e))
  | .ok items =>
    (reqs ++ (items.filter fun item => connectionRefName item == connName).map fun item => ⟨ns, item.metadata.name⟩, none)

/-- A List that fails is logged, and its kind is left out. -/
def appendDependentsOrLog (lists : WorkloadLists) (ns connName : String) (reqs : List Request) (k : WorkloadKind) :
    List Request :=
  match appendListDependents lists ns connName k reqs with
  | (_, some _) => reqs
  | (added, none) => added

def requestsForConnection (lists : WorkloadLists) (conn : QueueManagerConnection) : List Request :=
  dependentKinds.foldl (appendDependentsOrLog lists conn.metadata.ns conn.metadata.name) []

theorem mem_appendDependentsOrLog (lists : WorkloadLists) (ns connName : String) (reqs : List Request) (k : WorkloadKind)
    (request : Request) :
    request ∈ appendDependentsOrLog lists ns connName reqs k ↔ request ∈ reqs ∨
      ∃ items, lists k = .ok items ∧ ∃ item ∈ items, connectionRefName item = connName ∧
        request = ⟨ns, item.metadata.name⟩ := by
  unfold appendDependentsOrLog appendListDependents
  cases lists k with
  | error e => simp
  | ok items =>
    simp only [List.mem_append, List.mem_map, List.mem_filter, beq_iff_eq, Except.ok.injEq, exists_eq_left']
    refine or_congr_right ?_
    constructor
    · rintro ⟨item, ⟨listed, named⟩, rfl⟩
      exact ⟨item, listed, named, rfl⟩
    · rintro ⟨item, listed, named, rfl⟩
      exact ⟨item, ⟨listed, named⟩, rfl⟩

theorem mem_foldl_appendDependentsOrLog (lists : WorkloadLists) (ns connName : String) (kinds : List WorkloadKind)
    (reqs : List Request) (request : Request) :
    request ∈ kinds.foldl (appendDependentsOrLog lists ns connName) reqs ↔ request ∈ reqs ∨
      ∃ k ∈ kinds, ∃ items, lists k = .ok items ∧ ∃ item ∈ items, connectionRefName item = connName ∧
        request = ⟨ns, item.metadata.name⟩ := by
  induction kinds generalizing reqs with
  | nil => simp
  | cons k kinds ih =>
    rw [List.foldl_cons, ih, mem_appendDependentsOrLog, or_assoc]
    simp only [List.exists_mem_cons_iff]

/-- The requests name the resources of all kinds in the connection's namespace that refer to it, as far as they could be
listed, and nothing else. -/
theorem mem_requestsForConnection_iff (lists : WorkloadLists) (conn : QueueManagerConnection) (request : Request) :
    request ∈ requestsForConnection lists conn ↔
      ∃ k items, lists k = .ok items ∧ ∃ item ∈ items, connectionRefName item = conn.metadata.name ∧
        request = ⟨conn.metadata.ns, item.metadata.name⟩ := by
  unfold requestsForConnection
  rw [mem_foldl_appendDependentsOrLog]
  simp only [List.not_mem_nil, false_or]
  constructor
  · rintro ⟨k, -, found⟩
    exact ⟨k, found⟩
  · rintro ⟨k, found⟩
    exact ⟨k, mem_dependentKinds k, found⟩

end Requests

end MKurator.Controller
