import MKurator.Lib.Maps
import MKurator.MqRest.Factory

/-! The queue manager connections on the API server, with every version that was ever stored. -/

namespace MKurator.Connections
open MKurator.Api MKurator.MqRest MKurator.Lib.Maps

/-- A live connection, and whether its reconciler has released its client. -/
structure Stored where
  conn : Connection
  released : Bool

/-- The live connections by namespace and name, all versions so far, and the next unused `uid`. -/
structure Registry where
  live : AList fun _ : String => Stored
  history : List Connection
  nextUid : Nat

inductive RegistryEvent where
  | create (object : QueueManagerConnection)
  | addFinalizer (key : String)
  | update (key : String) (spec : QueueManagerConnectionSpec)
  | updateStatus (key : String) (conditions : List Condition) (observedGeneration : Nat)
  | delete (key : String) (now generation : Nat)
  | removeFinalizer (key : String)

def keyOf (conn : Connection) : String := connectionCacheKey conn.toQueueManagerConnection

def nameOf (conn : Connection) : String × String := (conn.metadata.ns, conn.metadata.name)

theorem keyOf_eq {a b : Connection} (same : nameOf a = nameOf b) : keyOf a = keyOf b := by
  obtain ⟨ns, name⟩ := Prod.mk.inj same
  rw [keyOf, keyOf, connectionCacheKey, connectionCacheKey, ns, name]

def finalizing (conn : Connection) : Prop := queueManagerConnectionFinalizer ∈ conn.metadata.finalizers

namespace Registry

def empty : Registry := ⟨∅, [], 0⟩

def store (r : Registry) (stored : Stored) : Registry :=
  { r with live := r.live.insert (keyOf stored.conn) stored, history := stored.conn :: r.history }

def erase (r : Registry) (key : String) : Registry := { r with live := r.live.erase key }

def revise (r : Registry) (key : String) (change : Connection → Connection) : Registry :=
  match r.live.lookup key with
  | none => r
  | some stored => r.store { stored with conn := change stored.conn }

def markReleased (r : Registry) (conn : Connection) : Registry :=
  match r.live.lookup (keyOf conn) with
  | none => r
  | some stored =>
    if stored.conn.uid = conn.uid then { r with live := r.live.insert (keyOf conn) { stored with released := true } } else r

def created (object : QueueManagerConnection) (uid : Nat) : Connection :=
  { object with
    metadata := { object.metadata with generation := 1, deletionTimestamp := none, finalizers := [] }
    uid := uid }

def withFinalizer (conn : Connection) : Connection :=
  { conn with metadata := { conn.metadata with
    finalizers := conn.metadata.finalizers ++ [queueManagerConnectionFinalizer] } }

/-- A change of the spec counts as a new generation. -/
def withSpec (spec : QueueManagerConnectionSpec) (conn : Connection) : Connection :=
  { conn with
    spec := spec
    metadata := { conn.metadata with
      generation := if spec = conn.spec then conn.metadata.generation else conn.metadata.generation + 1 } }

def withStatus (conditions : List Condition) (observedGeneration : Nat) (conn : Connection) : Connection :=
  { conn with conditions := conditions, observedGeneration := observedGeneration }

/-- The API server may count the deletion as a new generation. -/
def deleting (now generation : Nat) (conn : Connection) : Connection :=
  { conn with metadata := { conn.metadata with
    deletionTimestamp := some (conn.metadata.deletionTimestamp.getD now), generation := generation } }

def withoutFinalizer (conn : Connection) : Connection :=
  { conn with metadata := { conn.metadata with
    finalizers := conn.metadata.finalizers.filter (· ≠ queueManagerConnectionFinalizer) } }

/-- A connection without finalizers goes as soon as it is deleted, the others with their last finalizer. -/
def apply (r : Registry) : RegistryEvent → Registry
  | .create object => { r.store ⟨created object r.nextUid, false⟩ with nextUid := r.nextUid + 1 }
  | .addFinalizer key => r.revise key withFinalizer
  | .update key spec => r.revise key (withSpec spec)
  | .updateStatus key conditions observedGeneration => r.revise key (withStatus conditions observedGeneration)
  | .delete key now generation =>
    match r.live.lookup key with
    | none => r
    | some stored =>
      if stored.conn.metadata.finalizers = [] then r.erase key else r.revise key (deleting now generation)
  | .removeFinalizer key =>
    match r.live.lookup key with
    | none => r
    | some stored =>
      if (withoutFinalizer stored.conn).metadata.finalizers = [] then r.erase key else r.revise key withoutFinalizer

/-- A name is free before it is used again, and the reconciler drops the finalizer of a deleted connection only after it
has released the client. -/
def valid (r : Registry) : RegistryEvent → Prop
  | .create object => r.live.lookup (connectionCacheKey object) = none
  | .addFinalizer key => ∀ stored, r.live.lookup key = some stored → stored.conn.metadata.deletionTimestamp = none
  | .update _ _ => True
  | .updateStatus _ _ _ => True
  | .delete key _ generation => ∀ stored, r.live.lookup key = some stored → stored.conn.metadata.generation ≤ generation
  | .removeFinalizer key => ∀ stored, r.live.lookup key = some stored →
      stored.conn.metadata.deletionTimestamp.isSome = true ∧ stored.released = true

/-- Versions of one object have one name, and a generation has one spec. -/
structure Versioned (r : Registry) : Prop where
  listed : ∀ key stored, r.live.lookup key = some stored → stored.conn ∈ r.history
  named : ∀ key stored, r.live.lookup key = some stored → keyOf stored.conn = key
  fresh : ∀ conn ∈ r.history, conn.uid < r.nextUid
  oneName : ∀ a ∈ r.history, ∀ b ∈ r.history, a.uid = b.uid → nameOf a = nameOf b
  oneSpec : ∀ a ∈ r.history, ∀ b ∈ r.history, a.uid = b.uid → a.metadata.generation = b.metadata.generation →
    a.spec = b.spec
  latest : ∀ key stored, r.live.lookup key = some stored → ∀ a ∈ r.history, a.uid = stored.conn.uid →
    a.metadata.generation ≤ stored.conn.metadata.generation

structure Revision (old new : Connection) : Prop where
  uid : new.uid = old.uid
  name : nameOf new = nameOf old
  generation : old.metadata.generation ≤ new.metadata.generation
  spec : old.metadata.generation = new.metadata.generation → old.spec = new.spec

theorem Revision.withSpec (spec : QueueManagerConnectionSpec) (conn : Connection) :
    Revision conn (withSpec spec conn) := by
  by_cases same : spec = conn.spec
  · exact ⟨rfl, rfl, le_of_eq (if_pos same).symm, fun _ => same.symm⟩
  · have counted : (Registry.withSpec spec conn).metadata.generation = conn.metadata.generation + 1 := if_neg same
    refine ⟨rfl, rfl, ?_, fun unchanged => ?_⟩ <;> omega

variable {r : Registry}

theorem versioned_empty : empty.Versioned where
  listed _ _ found := by cases found
  named _ _ found := by cases found
  fresh _ member := by cases member
  oneName _ member := by cases member
  oneSpec _ member := by cases member
  latest _ _ found := by cases found

theorem revise_cases (r : Registry) (key : String) (change : Connection → Connection) :
    r.revise key change = r ∨ ∃ stored, r.live.lookup key = some stored ∧
      r.revise key change = r.store { stored with conn := change stored.conn } := by
  cases found : r.live.lookup key with
  | none => exact .inl (by rw [revise, found])
  | some stored => exact .inr ⟨stored, rfl, by rw [revise, found]⟩

theorem Versioned.store (versioned : r.Versioned) {new : Stored} {nextUid : Nat} (more : r.nextUid ≤ nextUid)
    (taken : new.conn.uid < nextUid)
    (follows : ∀ old ∈ r.history, old.uid = new.conn.uid → Revision old new.conn) :
    Versioned { r.store new with nextUid := nextUid } := by
  refine ⟨fun key stored found => ?_, fun key stored found => ?_, fun conn member => ?_, fun a inside b inside' same => ?_,
    fun a inside b inside' same generation => ?_, fun key stored found a inside same => ?_⟩
  · rcases lookup_insert_cases found with ⟨-, rfl⟩ | ⟨-, before⟩
    · exact List.mem_cons_self ..
    · exact List.mem_cons_of_mem _ (versioned.listed key stored before)
  · rcases lookup_insert_cases found with ⟨here, rfl⟩ | ⟨-, before⟩
    · exact here.symm
    · exact versioned.named key stored before
  · rcases List.mem_cons.mp member with rfl | old
    · exact taken
    · exact lt_of_lt_of_le (versioned.fresh conn old) more
  · rcases List.mem_cons.mp inside with rfl | old <;> rcases List.mem_cons.mp inside' with rfl | old'
    · rfl
    · exact (follows b old' same.symm).name
    · exact (follows a old same).name.symm
    · exact versioned.oneName a old b old' same
  · rcases List.mem_cons.mp inside with rfl | old <;> rcases List.mem_cons.mp inside' with rfl | old'
    · rfl
    · exact ((follows b old' same.symm).spec generation.symm).symm
    · exact (follows a old same).spec generation
    · exact versioned.oneSpec a old b old' same generation
  · rcases lookup_insert_cases found with ⟨here, rfl⟩ | ⟨elsewhere, before⟩ <;>
      rcases List.mem_cons.mp inside with rfl | old
    · exact le_refl _
    · exact (follows a old same).generation
    · -- An object of the new version's uid has its name, but the two are stored under different names.
      have name := keyOf_eq (follows _ (versioned.listed key stored before) same.symm).name
      rw [versioned.named key stored before] at name
      exact absurd name.symm elsewhere
    · exact versioned.latest key stored before a old same

theorem Versioned.revise (versioned : r.Versioned) (key : String) {change : Connection → Connection}
    (revision : ∀ stored, r.live.lookup key = some stored → Revision stored.conn (change stored.conn)) :
    (r.revise key change).Versioned := by
  rcases revise_cases r key change with unchanged | ⟨stored, found, changed⟩
  · rwa [unchanged]
  · have later := revision stored found
    have known := versioned.listed key stored found
    rw [changed]
    refine versioned.store (le_refl _) (later.uid ▸ versioned.fresh _ known) fun old member same => ?_
    have before := versioned.latest key stored found old member (same.trans later.uid)
    have between := later.generation
    refine ⟨same.symm, ?_, before.trans between, fun generation => ?_⟩
    · exact later.name.trans (versioned.oneName _ known old member (later.uid.symm.trans same.symm))
    · have unchanged : old.metadata.generation = stored.conn.metadata.generation := by
        change old.metadata.generation = (change stored.conn).metadata.generation at generation
        omega
      exact (versioned.oneSpec old member _ known (same.trans later.uid) unchanged).trans
        (later.spec (unchanged.symm.trans generation))

theorem Versioned.of_live (versioned : r.Versioned) {live : AList fun _ : String => Stored}
    (fewer : ∀ key stored, live.lookup key = some stored → ∃ old, r.live.lookup key = some old ∧ old.conn = stored.conn) :
    Versioned { r with live := live } where
  listed key stored present := by
    obtain ⟨old, found, same⟩ := fewer key stored present
    exact same ▸ versioned.listed key old found
  named key stored present := by
    obtain ⟨old, found, same⟩ := fewer key stored present
    exact same ▸ versioned.named key old found
  fresh := versioned.fresh
  oneName := versioned.oneName
  oneSpec := versioned.oneSpec
  latest key stored present := by
    obtain ⟨old, found, same⟩ := fewer key stored present
    exact same ▸ versioned.latest key old found

theorem Versioned.erase (versioned : r.Versioned) (key : String) : (r.erase key).Versioned :=
  versioned.of_live fun _ stored present => ⟨stored, (lookup_erase_cases present).2, rfl⟩

theorem markReleased_cases (r : Registry) (conn : Connection) :
    r.markReleased conn = r ∨ ∃ stored, r.live.lookup (keyOf conn) = some stored ∧ stored.conn.uid = conn.uid ∧
      r.markReleased conn = { r with live := r.live.insert (keyOf conn) { stored with released := true } } := by
  rw [markReleased]
  cases found : r.live.lookup (keyOf conn) with
  | none => exact .inl rfl
  | some stored =>
    by_cases same : stored.conn.uid = conn.uid
    · exact .inr ⟨stored, rfl, same, if_pos same⟩
    · exact .inl (if_neg same)

theorem Versioned.markReleased (versioned : r.Versioned) (conn : Connection) : (r.markReleased conn).Versioned := by
  rcases markReleased_cases r conn with unchanged | ⟨stored, found, -, changed⟩
  · rwa [unchanged]
  · rw [changed]
    apply versioned.of_live
    intro key other present
    rcases lookup_insert_cases present with ⟨here, rfl⟩ | ⟨-, before⟩
    · exact ⟨stored, here ▸ found, rfl⟩
    · exact ⟨other, before, rfl⟩

inductive Change (r : Registry) : RegistryEvent → Registry → Prop where
  | none (event : RegistryEvent) : Change r event r
  | first (object : QueueManagerConnection) :
      Change r (.create object) { r.store ⟨created object r.nextUid, false⟩ with nextUid := r.nextUid + 1 }
  | later (event : RegistryEvent) (key : String) (change : Connection → Connection)
      (revision : ∀ stored, r.live.lookup key = some stored → Revision stored.conn (change stored.conn))
      (kept : ∀ stored, r.live.lookup key = some stored → finalizing stored.conn → stored.released = false →
        finalizing (change stored.conn)) :
      Change r event (r.revise key change)
  | last (event : RegistryEvent) (key : String) (stored : Stored) (found : r.live.lookup key = some stored)
      (free : finalizing stored.conn → stored.released = true) : Change r event (r.erase key)

theorem change_apply {event : RegistryEvent} (possible : r.valid event) : Change r event (r.apply event) := by
  cases event with
  | create object => exact .first object
  | addFinalizer key =>
    exact .later _ key _ (fun stored _ => ⟨rfl, rfl, le_refl _, fun _ => rfl⟩)
      fun stored _ held _ => List.mem_append.mpr (.inl held)
  | update key spec => exact .later _ key _ (fun stored _ => Revision.withSpec spec stored.conn) fun _ _ held _ => held
  | updateStatus key conditions observedGeneration =>
    exact .later _ key _ (fun stored _ => ⟨rfl, rfl, le_refl _, fun _ => rfl⟩) fun _ _ held _ => held
  | delete key now generation =>
    rw [apply]
    cases found : r.live.lookup key with
    | none => exact .none _
    | some stored =>
      by_cases bare : stored.conn.metadata.finalizers = []
      · simp only [bare, if_true]
        exact .last _ key stored found fun held => by
          rw [finalizing, bare] at held
          cases held
      · simp only [bare, if_false]
        exact .later _ key _ (fun other present => ⟨rfl, rfl, possible other present, fun _ => rfl⟩) fun _ _ held _ => held
  | removeFinalizer key =>
    rw [apply]
    cases found : r.live.lookup key with
    | none => exact .none _
    | some stored =>
      by_cases bare : (withoutFinalizer stored.conn).metadata.finalizers = []
      · simp only [bare, if_true]
        exact .last _ key stored found fun _ => (possible stored found).2
      · simp only [bare, if_false]
        refine .later _ key _ (fun stored _ => ⟨rfl, rfl, le_refl _, fun _ => rfl⟩) fun other present _ unreleased => ?_
        have released := (possible other present).2
        rw [unreleased] at released
        cases released

theorem Versioned.apply (versioned : r.Versioned) {event : RegistryEvent} (possible : r.valid event) :
    (r.apply event).Versioned := by
  have change := change_apply possible
  generalize r.apply event = after at change ⊢
  cases change with
  | none => exact versioned
  | first object =>
    refine versioned.store (Nat.le_succ _) (Nat.lt_succ_self _) fun old member same => ?_
    exact absurd same (Nat.ne_of_lt (versioned.fresh old member))
  | later _ key change revision kept => exact versioned.revise key revision
  | last _ key stored found free => exact versioned.erase key

theorem history_apply {event : RegistryEvent} (possible : r.valid event) {conn : Connection} (known : conn ∈ r.history) :
    conn ∈ (r.apply event).history := by
  have change := change_apply possible
  generalize r.apply event = after at change ⊢
  cases change with
  | none => exact known
  | first object => exact List.mem_cons_of_mem _ known
  | later _ key change revision kept =>
    rcases revise_cases r key change with unchanged | ⟨stored, -, changed⟩
    · rwa [unchanged]
    · rw [changed]
      exact List.mem_cons_of_mem _ known
  | last => exact known

theorem history_markReleased (conn : Connection) : (r.markReleased conn).history = r.history := by
  rcases markReleased_cases r conn with unchanged | ⟨stored, -, -, changed⟩
  · rw [unchanged]
  · rw [changed]

/-- The object of this name and `uid` is live, and its finalizer keeps it until its client is released. -/
def Held (r : Registry) (key : String) (uid : Nat) : Prop :=
  ∃ stored, r.live.lookup key = some stored ∧ stored.conn.uid = uid ∧ finalizing stored.conn ∧ stored.released = false

variable {key : String} {uid : Nat}

theorem Held.unique {uid' : Nat} (held : r.Held key uid) (held' : r.Held key uid') : uid = uid' := by
  obtain ⟨stored, found, rfl, -, -⟩ := held
  obtain ⟨stored', found', rfl, -, -⟩ := held'
  rw [Option.some.inj (found.symm.trans found')]

theorem Held.apply (held : r.Held key uid) (versioned : r.Versioned) {event : RegistryEvent} (possible : r.valid event) :
    (r.apply event).Held key uid := by
  obtain ⟨stored, found, same, finalizer, unreleased⟩ := held
  have change := change_apply possible
  generalize r.apply event = after at change ⊢
  cases change with
  | none => exact ⟨stored, found, same, finalizer, unreleased⟩
  | first object =>
    refine ⟨stored, ?_, same, finalizer, unreleased⟩
    have elsewhere : key ≠ keyOf (created object r.nextUid) := by
      rintro rfl
      exact absurd (found.symm.trans possible) (Option.some_ne_none _)
    exact (AList.lookup_insert_ne elsewhere).trans found
  | later _ changed change revision kept =>
    rcases revise_cases r changed change with unchanged | ⟨old, present, revised⟩
    · rw [unchanged]
      exact ⟨stored, found, same, finalizer, unreleased⟩
    · rw [revised]
      have name : keyOf (change old.conn) = changed :=
        (keyOf_eq (revision old present).name).trans (versioned.named changed old present)
      by_cases here : key = changed
      · obtain rfl : stored = old := Option.some.inj (found.symm.trans (here ▸ present))
        refine ⟨{ stored with conn := change stored.conn }, ?_, (revision stored present).uid.trans same,
          kept stored present finalizer unreleased, unreleased⟩
        rw [here, ← name]
        exact AList.lookup_insert _
      · refine ⟨stored, ?_, same, finalizer, unreleased⟩
        exact (AList.lookup_insert_ne (name ▸ here)).trans found
  | last _ gone old present free =>
    have elsewhere : key ≠ gone := by
      rintro rfl
      obtain rfl : stored = old := Option.some.inj (found.symm.trans present)
      rw [free finalizer] at unreleased
      cases unreleased
    exact ⟨stored, (AList.lookup_erase_ne elsewhere).trans found, same, finalizer, unreleased⟩

theorem Held.markReleased (held : r.Held key uid) {conn : Connection} (other : key ≠ keyOf conn) :
    (r.markReleased conn).Held key uid := by
  rcases markReleased_cases r conn with unchanged | ⟨stored, -, -, changed⟩
  · rwa [unchanged]
  · obtain ⟨kept, found, rest⟩ := held
    rw [changed]
    exact ⟨kept, (AList.lookup_insert_ne other).trans found, rest⟩

end Registry

end MKurator.Connections
