import MKurator.Connections.Identity

/-! Rotated credentials: a call returns no client from Secrets older than those that it has seen, although a slower call may
put an older client into the cache. -/

namespace MKurator.Connections
open MKurator.Api MKurator.MqAdmin MKurator.MqRest MKurator.Lib MKurator.Lib.Strings MKurator.Lib.Versions

def NotRecreated (key : String) (w : FactoryWorld) : FactoryEvent → Prop
  | .registry (.create object) => connectionCacheKey object = key → ∀ conn ∈ w.registry.history, keyOf conn ≠ key
  | _ => True

def OneObject (key : String) (r : Registry) : Prop :=
  ∀ a ∈ r.history, ∀ b ∈ r.history, keyOf a = key → keyOf b = key → a.uid = b.uid

variable {key : String} {r : Registry}

theorem oneObject_empty : OneObject key Registry.empty := by
  intro a inside
  cases inside

theorem OneObject.store (one : OneObject key r) {new : Stored} {old : Connection} (known : old ∈ r.history)
    (follows : Registry.Revision old new.conn) : OneObject key (r.store new) := by
  have name := keyOf_eq follows.name
  intro a inside b inside' here here'
  rcases List.mem_cons.mp inside with rfl | before <;> rcases List.mem_cons.mp inside' with rfl | before'
  · rfl
  · exact follows.uid.trans (one old known b before' (name.symm.trans here) here')
  · exact (one a before old known here (name.symm.trans here')).trans follows.uid.symm
  · exact one a before b before' here here'

theorem OneObject.first (one : OneObject key r) {new : Stored}
    (unused : keyOf new.conn = key → ∀ conn ∈ r.history, keyOf conn ≠ key) : OneObject key (r.store new) := by
  intro a inside b inside' here here'
  rcases List.mem_cons.mp inside with rfl | before <;> rcases List.mem_cons.mp inside' with rfl | before'
  · rfl
  · exact absurd here' (unused here b before')
  · exact absurd here (unused here' a before)
  · exact one a before b before' here here'

theorem OneObject.apply (one : OneObject key r) (versioned : r.Versioned) {event : RegistryEvent} (possible : r.valid event)
    (unused : ∀ object, event = .create object → connectionCacheKey object = key →
      ∀ conn ∈ r.history, keyOf conn ≠ key) : OneObject key (r.apply event) := by
  have change := Registry.change_apply possible
  generalize r.apply event = after at change ⊢
  cases change with
  | none => exact one
  | first object => exact one.first (unused object rfl)
  | later _ changed change revision kept =>
    rcases Registry.revise_cases r changed change with unchanged | ⟨stored, found, revised⟩
    · rwa [unchanged]
    · rw [revised]
      exact one.store (versioned.listed changed stored found) (revision stored found)
  | last => exact one

section Runs

variable [UnicodeTables] {tools : Tooling} {w : FactoryWorld} {event : FactoryEvent}

theorem OneObject.next (one : OneObject key w.registry) (sound : Sound tools w) (possible : w.valid event)
    (once : NotRecreated key w event) : OneObject key (w.next tools event).registry := by
  cases event with
  | registry event =>
    apply one.apply sound.versioned possible
    rintro object rfl
    exact once
  | writeSecret name data => exact one
  | deleteSecret name => exact one
  | release conn =>
    rw [OneObject, FactoryWorld.next, Registry.history_markReleased]
    exact one
  | call caller conn =>
    rw [FactoryWorld.next, FactoryWorld.enter]
    split
    · exact one
    · exact one
  | proceed index failure =>
    have moved := sound.proceed_cases index failure
    generalize w.next tools (.proceed index failure) = next at moved ⊢
    cases moved <;> exact one

/-- While a connection is not created a second time, each call about it returns a client from versions of its Secrets that
are no older than those of the call's fingerprint, nor than those at the call's start. -/
theorem client_not_stale (run : (clientFactory tools).Reach (NotRecreated key) FactoryWorld.start w) :
    ∀ answer ∈ w.answers, keyOf answer.1.conn = key →
      ∃ fp auth cred ca, answer.1.phase.fingerprint = some fp ∧
        resolveAuthentication answer.1.conn.toQueueManagerConnection = .ok auth ∧
        ((answer.1.conn.metadata.ns, auth.secretName), cred) ∈ w.secrets.written ∧ CARead w.secrets answer.1.conn ca ∧
        buildConfig tools answer.1.conn.toQueueManagerConnection auth cred ca = .ok answer.2.config ∧
        fp.credRV ≤ cred.resourceVersion ∧ AtLeast fp.caRV (ca.map SecretObject.resourceVersion) ∧
        AtLeast answer.1.credAtStart (some cred.resourceVersion) ∧
        AtLeast answer.1.caAtStart (ca.map SecretObject.resourceVersion) := by
  have all : Sound tools w ∧ OneObject key w.registry ∧ AllAnswered tools (fun conn => keyOf conn = key) w := by
    apply run.invariant
      (fun w => Sound tools w ∧ OneObject key w.registry ∧ AllAnswered tools (fun conn => keyOf conn = key) w)
    · exact ⟨sound_start, oneObject_empty, allAnswered_start⟩
    · rintro state event ⟨sound, one, answers⟩ possible once
      have own : OwnEntries (fun conn => keyOf conn = key) state event := by
        cases event with
        | proceed index failure =>
          intro call entry found here locked cached
          have entrySound := sound.entries _ entry cached
          have called := sound.calls call (List.mem_of_getElem? found)
          exact one _ entrySound.known _ called.known (entrySound.named.trans here) here
        | _ => exact trivial
      exact ⟨sound.next possible, one.next sound possible once, answers.next sound own⟩
  intro answer member here
  have answered := all.2.2 answer member here
  obtain ⟨fp, observed, noted, covers⟩ := answered.seen
  obtain ⟨auth, cred, ca, resolved, recorded, read, built, credVersion, caVersion⟩ := answered.made
  have credLe : fp.credRV ≤ cred.resourceVersion := credVersion ▸ covers.cred
  have caLe : AtLeast fp.caRV (ca.map SecretObject.resourceVersion) := caVersion ▸ covers.ca
  exact ⟨fp, auth, cred, ca, observed, resolved, recorded, read, built, credLe, caLe, noted.cred.trans (.of_le credLe),
    noted.ca.trans caLe⟩

end Runs

section Cases

attribute [local instance] asciiTables

/-- A call has read the old credentials when they are rotated. A second call, which starts then, stores its client first,
and the slow call replaces it under the old fingerprint. -/
def rotating : List FactoryEvent :=
  [.registry (.create (ordersManager "https://a:9443")), .writeSecret ("default", "creds") (AList.singleton "password" "old"),
   .registry (.addFinalizer "default/qm1"), .call .connectionReconciler firstManager, .proceed 0 none,
   .writeSecret ("default", "creds") (AList.singleton "password" "new"),
   .registry (.updateStatus "default/qm1" readyManager.conditions 1), .call .workloadReconciler readyManager,
   .proceed 1 none, .proceed 1 none, .proceed 1 none, .proceed 1 none, .proceed 0 none, .proceed 0 none, .proceed 0 none]

def rotated : FactoryWorld := rotating.foldl (clientFactory easyTools).next FactoryWorld.start

theorem reach_rotated : (clientFactory easyTools).Reach (NotRecreated "default/qm1") FactoryWorld.start rotated := by
  apply System.Reach.start.follow rotating
  refine ⟨rfl, ?_, trivial, trivial, ?_, trivial, ?_, trivial, trivial, trivial, trivial, trivial, trivial, trivial, ?_, trivial,
    trivial, trivial, trivial, trivial, trivial, trivial, trivial, trivial, trivial, trivial, trivial, trivial, trivial, trivial,
    trivial⟩
  · intro _ conn member
    cases member
  · rintro stored ⟨⟩
    rfl
  · exact ⟨List.mem_cons_self .., rfl, List.mem_cons_self ..⟩
  · exact ⟨List.mem_cons_self .., rfl⟩

theorem late_call_gets_new_credentials : (rotated.cache.lookup "default/qm1").map (·.credRV) = some 1 ∧
    ∃ answer ∈ rotated.answers, answer.1.credAtStart = some 2 ∧
      ∃ cred, (("default", "creds"), cred) ∈ rotated.secrets.written ∧ 2 ≤ cred.resourceVersion := by
  refine ⟨rfl, _, List.mem_cons_of_mem _ (List.mem_cons_self ..), rfl, ?_⟩
  obtain ⟨fp, auth, cred, ca, -, resolved, recorded, -, -, -, -, started, -⟩ :=
    client_not_stale reach_rotated _ (List.mem_cons_of_mem _ (List.mem_cons_self ..)) rfl
  cases resolved
  exact ⟨cred, recorded, started.le⟩

end Cases

end MKurator.Connections
