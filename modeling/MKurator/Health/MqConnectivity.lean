import MKurator.Controller.ConnectionRuns
import MKurator.Lib.Family

/-! The readiness probe of the operator, which goes by what the connections report, and what it says about a cluster in
which their keys are reconciled one at a time, in any order. -/

namespace MKurator.Health
open MKurator.Api MKurator.Controller MKurator.Controller.QueueManagerConnectionReconciler MKurator.Lib
open MKurator.Lib.Strings

def errNoHealthyQMC : String := "no QueueManagerConnection reports Ready=True"

def qmcReady (conn : QueueManagerConnection) : Bool :=
  conn.conditions.any fun c => c.type == conditionReady && c.status == .conditionTrue

/-- The loop, with the number of connections so far that are not being deleted. -/
def evaluateFrom (active : Nat) : List QueueManagerConnection → Except String Unit
  | [] => if active = 0 then .ok () else .error errNoHealthyQMC
  | conn :: conns =>
    if conn.metadata.deletionTimestamp.isSome then evaluateFrom active conns
    else if qmcReady conn then .ok ()
    else evaluateFrom (active + 1) conns

def evaluateMQConnectivity (conns : List QueueManagerConnection) : Except String Unit := evaluateFrom 0 conns

/-- `MQConnectivityChecker.Check`, with the answer of the list request. -/
def check : Except String (List QueueManagerConnection) → Except String Unit
  | .error e => .error ("list QueueManagerConnections: " ++ e)
  | .ok conns => evaluateMQConnectivity conns

section Evaluate

def Active (conn : QueueManagerConnection) : Prop := conn.metadata.deletionTimestamp = none

theorem evaluateFrom_eq_ok_iff (active : Nat) (conns : List QueueManagerConnection) :
    evaluateFrom active conns = .ok () ↔
      (active = 0 ∧ ∀ conn ∈ conns, ¬Active conn) ∨ ∃ conn ∈ conns, Active conn ∧ qmcReady conn = true := by
  induction conns generalizing active with
  | nil =>
    rw [evaluateFrom]
    split <;> simp_all
  | cons conn conns ih =>
    rw [evaluateFrom, List.forall_mem_cons, List.exists_mem_cons_iff]
    split
    next deleting =>
      have inactive : ¬Active conn := Option.ne_none_iff_isSome.mpr deleting
      simp only [ih, inactive, not_false_eq_true, true_and, false_and, false_or]
    next live =>
      have counts : Active conn := Option.not_isSome_iff_eq_none.mp live
      split
      next ready => exact iff_of_true rfl (.inr (.inl ⟨counts, ready⟩))
      next unready =>
        simp only [ih, Nat.succ_ne_zero, counts, not_true_eq_false, unready, Bool.false_eq_true, and_false, false_and,
          false_or]

end Evaluate

section Cluster

variable {ι : Type}

def listing (names : List ι) (cluster : ι → Watched) : List QueueManagerConnection :=
  names.filterMap fun name => (cluster name).stored

theorem mem_listing {names : List ι} {cluster : ι → Watched} {conn : QueueManagerConnection} :
    conn ∈ listing names cluster ↔ ∃ name ∈ names, (cluster name).stored = some conn := List.mem_filterMap

variable [UnicodeTables] [DecidableEq ι]

/-- Once a connection in use has been reconciled twice without obstacles, the operator is ready, whatever happens to the
other connections. -/
theorem readyz_after_two_tests {cluster : ι → Watched} {actions : List (ι × WatchAct)} {name : ι}
    {names : List ι} {conn : QueueManagerConnection} (listed : name ∈ names)
    (follows : (connectionQueue.family ι).Follows (fun states act => act.1 = name → Unhindered (states name) act.2) cluster
      actions)
    (stored : (cluster name).stored = some conn) (active : Active conn)
    (twice : 2 ≤ (System.own name actions).countP isReconcile) :
    check (.ok (listing names (actions.foldl (connectionQueue.family ι).next cluster))) = .ok () := by
  have own : connectionQueue.Follows Unhindered (cluster name) (System.own name actions) ∧
      actions.foldl (connectionQueue.family ι).next cluster name =
        (System.own name actions).foldl Watched.next (cluster name) :=
    follows.of_family fun _ _ permitted => permitted rfl
  obtain ⟨after, found, stage⟩ := stage_of_follows own.1 stored active
  rw [← own.2] at found
  have ready := (Bool.and_eq_true_iff.mp (stage.ready (by omega))).1
  exact (evaluateFrom_eq_ok_iff 0 _).mpr (.inr ⟨after, mem_listing.mpr ⟨name, listed, found⟩, stage.live, ready⟩)

end Cluster

section Cases

attribute [local instance] asciiTables

def onlyConnection : List (Unit × WatchAct) := firstSteps.map fun act => ((), act)

theorem follows_onlyConnection : (connectionQueue.family Unit).Follows
    (fun states act => act.1 = () → Unhindered (states ()) act.2) (fun _ => created declaredConnection) onlyConnection :=
  System.Follows.family follows_firstSteps fun _ _ unhindered _ => unhindered

theorem readyz_after_two_tests_only :
    check (.ok (listing [()] (onlyConnection.foldl (connectionQueue.family Unit).next fun _ => created declaredConnection))) =
      .ok () :=
  readyz_after_two_tests (List.mem_singleton.mpr rfl) follows_onlyConnection
    (show (created declaredConnection).stored = some declaredConnection from rfl) rfl
    (by rw [onlyConnection, System.own_map]; decide)

end Cases

end MKurator.Health
