import Mathlib.Data.List.Perm.Subperm
import MKurator.Connections.Cache

/-! Whose clients the factory's cache holds: a connection's finalizer keeps it on the API server until its client is
released, but a call that is still in progress then can put a client back. -/

namespace MKurator.Connections
open MKurator.Api MKurator.MqAdmin MKurator.MqRest MKurator.Controller MKurator.Lib MKurator.Lib.Strings
open MKurator.Lib.Maps MKurator.Lib.Versions

section Runs

def EntriesHeld (owner : CacheEntry → Nat → Prop) (w : FactoryWorld) : Prop :=
  ∀ key entry, w.cache.lookup key = some entry → ∃ uid, owner entry uid ∧ w.registry.Held key uid

def MadeForUid (entry : CacheEntry) (uid : Nat) : Prop := entry.admin.madeFor.uid = uid

def InsertsHeld (owner : CacheEntry → Nat → Prop) (w : FactoryWorld) : FactoryEvent → Prop
  | .proceed index _ => ∀ call fp made, w.calls[index]? = some call → call.phase = .insert fp made →
      ∃ uid, owner ⟨fp, made⟩ uid ∧ w.registry.Held (keyOf call.conn) uid
  | _ => True

theorem entriesHeld_start {owner : CacheEntry → Nat → Prop} : EntriesHeld owner FactoryWorld.start := by
  intro key entry cached
  cases cached

/-- A call stores its client only while a connection of that name is live, has its finalizer and is not released. -/
def LiveInsert (w : FactoryWorld) : FactoryEvent → Prop
  | .proceed index _ => ∀ call fp made, w.calls[index]? = some call → call.phase = .insert fp made →
      ∃ uid, w.registry.Held (keyOf call.conn) uid
  | _ => True

/-- A call looks into the cache only while its own object is live, has its finalizer and is not released. -/
def LiveAccess (w : FactoryWorld) : FactoryEvent → Prop
  | .proceed index _ => ∀ call, w.calls[index]? = some call → call.phase.locked = true →
      w.registry.Held (keyOf call.conn) call.conn.uid
  | _ => True

theorem liveInsert_of_liveAccess (w : FactoryWorld) (event : FactoryEvent) (live : LiveAccess w event) : LiveInsert w event := by
  cases event with
  | proceed index failure =>
    intro call fp made found inserting
    exact ⟨call.conn.uid, live call found (inserting ▸ rfl)⟩
  | _ => exact trivial

variable [UnicodeTables] {tools : Tooling} {w : FactoryWorld} {event : FactoryEvent} {owner : CacheEntry → Nat → Prop}

theorem EntriesHeld.next (held : EntriesHeld owner w) (sound : Sound tools w) (possible : w.valid event)
    (inserts : InsertsHeld owner w event) : EntriesHeld owner (w.next tools event) := by
  cases event with
  | registry event =>
    intro key entry cached
    obtain ⟨uid, owned, live⟩ := held key entry cached
    exact ⟨uid, owned, live.apply sound.versioned possible⟩
  | writeSecret name data => exact held
  | deleteSecret name => exact held
  | release conn =>
    intro key entry cached
    obtain ⟨other, before⟩ := lookup_erase_cases cached
    obtain ⟨uid, owned, live⟩ := held key entry before
    exact ⟨uid, owned, live.markReleased other⟩
  | call caller conn =>
    rw [FactoryWorld.next, FactoryWorld.enter]
    split
    · exact held
    · exact held
  | proceed index failure =>
    have moved := sound.proceed_cases index failure
    generalize w.next tools (.proceed index failure) = next at moved ⊢
    cases moved with
    | idle => exact held
    | again call moving => exact held
    | failed => exact held
    | hit call found locked entry cached observed noted => exact held
    | stored call found entry inserting noted covers madeFor madeFrom =>
      intro key other cached
      rcases lookup_insert_cases cached with ⟨rfl, rfl⟩ | ⟨-, before⟩
      · exact inserts call _ _ found inserting
      · exact held key other before

/-- A run that stores clients only for held connections leaves no client behind when a connection goes. -/
theorem no_cache_leak (run : (clientFactory tools).Reach LiveInsert FactoryWorld.start w) :
    (∀ key, (∀ stored, w.registry.live.lookup key = some stored → stored.released = true) →
        w.cache.lookup key = none) ∧
      w.cache.keys.length ≤ w.registry.live.keys.length := by
  have held : Sound tools w ∧ EntriesHeld (fun _ _ => True) w := by
    apply run.invariant (fun w => Sound tools w ∧ EntriesHeld (fun _ _ => True) w)
    · exact ⟨sound_start, entriesHeld_start⟩
    · rintro state event ⟨sound, held⟩ possible live
      refine ⟨sound.next possible, held.next sound possible ?_⟩
      cases event with
      | proceed index failure =>
        intro call fp made found inserting
        obtain ⟨uid, kept⟩ := live call fp made found inserting
        exact ⟨uid, trivial, kept⟩
      | _ => exact trivial
  constructor
  · intro key gone
    cases cached : w.cache.lookup key with
    | none => rfl
    | some entry =>
      obtain ⟨uid, -, stored, found, -, -, unreleased⟩ := held.2 key entry cached
      rw [gone stored found] at unreleased
      cases unreleased
  · have kept : w.cache.keys ⊆ w.registry.live.keys := by
      intro key member
      obtain ⟨entry, cached⟩ := Option.isSome_iff_exists.mp (AList.lookup_isSome.mpr (AList.mem_keys.mpr member))
      obtain ⟨uid, -, stored, found, -⟩ := held.2 key entry cached
      exact AList.mem_keys.mp (AList.lookup_isSome.mp (Option.isSome_of_eq_some found))
    exact (w.cache.keys_nodup.subperm kept).length_le

/-- In a run in which calls look into the cache only while their own object is held, each call gets a client made for
that object and from its spec. -/
theorem client_of_own_spec (run : (clientFactory tools).Reach LiveAccess FactoryWorld.start w) :
    ∀ answer ∈ w.answers,
      answer.2.madeFor.uid = answer.1.conn.uid ∧ MadeFrom tools w.secrets answer.1.conn answer.2 := by
  have all : Sound tools w ∧ EntriesHeld MadeForUid w ∧ AllAnswered tools (fun _ => True) w := by
    apply run.invariant (fun w => Sound tools w ∧ EntriesHeld MadeForUid w ∧ AllAnswered tools (fun _ => True) w)
    · exact ⟨sound_start, entriesHeld_start, allAnswered_start⟩
    · rintro state event ⟨sound, held, answers⟩ possible live
      have own : OwnEntries (fun _ => True) state event := by
        cases event with
        | proceed index failure =>
          intro call entry found _ locked cached
          obtain ⟨uid, owned, kept⟩ := held _ entry cached
          exact owned.trans (kept.unique (live call found locked))
        | _ => exact trivial
      have inserts : InsertsHeld MadeForUid state event := by
        cases event with
        | proceed index failure =>
          intro call fp made found inserting
          have phaseSound := (sound.calls call (List.mem_of_getElem? found)).phase
          rw [inserting] at phaseSound
          obtain ⟨-, -, madeFor, -⟩ := phaseSound
          exact ⟨call.conn.uid, congrArg Connection.uid madeFor, live call found (inserting ▸ rfl)⟩
        | _ => exact trivial
      exact ⟨sound.next possible, held.next sound possible inserts, answers.next sound own⟩
  intro answer member
  have answered := all.2.2 answer member trivial
  exact ⟨answered.uid, answered.made⟩

end Runs

section Cases

attribute [local instance] asciiTables

def easyTools : Tooling := ⟨.ok, fun _ => true, fun _ _ => none⟩

def ordersManager (endpoint : String) : QueueManagerConnection where
  metadata := ⟨"qm1", "default", 0, none, [], ∅⟩
  spec := ⟨"QM1", endpoint, "", none, some "creds", none⟩
  conditions := []
  observedGeneration := 0

def firstManager : Connection := Registry.withFinalizer (Registry.created (ordersManager "https://a:9443") 0)

def connecting : List FactoryEvent :=
  [.registry (.create (ordersManager "https://a:9443")), .writeSecret ("default", "creds") (AList.singleton "password" "pw"),
   .registry (.addFinalizer "default/qm1"), .call .connectionReconciler firstManager, .proceed 0 none, .proceed 0 none,
   .proceed 0 none, .proceed 0 none]

def connected : FactoryWorld := connecting.foldl (clientFactory easyTools).next FactoryWorld.start

theorem reach_connected : (clientFactory easyTools).Reach LiveAccess FactoryWorld.start connected := by
  apply System.Reach.start.follow connecting
  refine ⟨rfl, trivial, trivial, trivial, ?_, trivial, ?_, trivial, trivial, ?_, trivial, ?_, trivial, ?_, trivial, ?_, trivial⟩
  · rintro stored ⟨⟩
    rfl
  · exact ⟨List.mem_cons_self .., rfl, List.mem_cons_self ..⟩
  · rintro call ⟨⟩ locked
    cases locked
  · rintro call ⟨⟩ locked
    exact ⟨⟨firstManager, false⟩, rfl, rfl, List.mem_cons_self .., rfl⟩
  · rintro call ⟨⟩ locked
    cases locked
  · rintro call ⟨⟩ locked
    exact ⟨⟨firstManager, false⟩, rfl, rfl, List.mem_cons_self .., rfl⟩

theorem first_client_is_own : ∃ answer ∈ connected.answers, answer.1.conn = firstManager ∧
    answer.2.config.endpoint = "https://a:9443" ∧ answer.2.madeFor.uid = answer.1.conn.uid ∧
    MadeFrom easyTools connected.secrets answer.1.conn answer.2 :=
  ⟨_, List.mem_cons_self .., rfl, rfl, client_of_own_spec reach_connected _ (List.mem_cons_self ..)⟩

def readyManager : Connection :=
  Registry.withStatus [⟨conditionReady, .conditionTrue, "Available", "mqweb connection is healthy", 1, 0⟩] 1 firstManager

def removing (deleted : Connection) : List FactoryEvent :=
  [.registry (.delete "default/qm1" 5 2), .release (Registry.deleting 5 2 deleted), .registry (.removeFinalizer "default/qm1")]

def removed : FactoryWorld := (removing firstManager).foldl (clientFactory easyTools).next connected

theorem reach_removed : (clientFactory easyTools).Reach LiveAccess FactoryWorld.start removed := by
  apply reach_connected.follow (removing firstManager)
  refine ⟨?_, trivial, ?_, trivial, ?_, trivial, trivial⟩
  · rintro stored ⟨⟩
    decide
  · exact ⟨List.mem_cons_self .., rfl, List.mem_cons_self ..⟩
  · rintro stored ⟨⟩
    exact ⟨rfl, rfl⟩

theorem removed_leaves_nothing : connected.cache.keys = ["default/qm1"] ∧ removed.registry.live.keys = [] ∧
    removed.cache.lookup "default/qm1" = none := by
  refine ⟨rfl, rfl, (no_cache_leak (reach_removed.mono liveInsert_of_liveAccess)).1 "default/qm1" ?_⟩
  rintro stored ⟨⟩

/-- A workload's call has read the Secret when the connection is deleted; it misses the cache after the release and stores
a client when the connection is gone. -/
def leaking : List FactoryEvent :=
  [.registry (.updateStatus "default/qm1" readyManager.conditions 1), .call .workloadReconciler readyManager,
   .proceed 0 none] ++ removing readyManager ++ [.proceed 0 none, .proceed 0 none, .proceed 0 none]

def leaked : FactoryWorld := leaking.foldl (clientFactory easyTools).next connected

theorem reach_leaked : (clientFactory easyTools).Reach (fun _ _ => True) FactoryWorld.start leaked := by
  apply (reach_connected.mono fun _ _ _ => trivial).follow leaking
  refine ⟨trivial, trivial, ?_, trivial, trivial, trivial, ?_, trivial, ?_, trivial, ?_, trivial, trivial, trivial, trivial,
    trivial, trivial, trivial, trivial⟩
  · exact ⟨List.mem_cons_self .., rfl⟩
  · rintro stored ⟨⟩
    decide
  · exact ⟨List.mem_cons_self .., rfl, List.mem_cons_self ..⟩
  · rintro stored ⟨⟩
    exact ⟨rfl, rfl⟩

theorem late_call_leaks : (clientFactory easyTools).Reach (fun _ _ => True) FactoryWorld.start leaked ∧
    leaked.calls.length = 0 ∧ leaked.registry.live.keys = [] ∧ leaked.cache.keys = ["default/qm1"] :=
  ⟨reach_leaked, rfl, rfl, rfl⟩

def secondManager : Connection := Registry.withFinalizer (Registry.created (ordersManager "https://b:9443") 1)

def recreating : List FactoryEvent :=
  [.registry (.create (ordersManager "https://b:9443")), .registry (.addFinalizer "default/qm1"),
   .call .connectionReconciler secondManager, .proceed 0 none, .proceed 0 none]

def recreated : FactoryWorld := recreating.foldl (clientFactory easyTools).next leaked

/-- The new connection gets the client of the old one. -/
theorem recreated_gets_old_client : (clientFactory easyTools).Reach (fun _ _ => True) FactoryWorld.start recreated ∧
    ∃ answer ∈ recreated.answers, answer.1.conn = secondManager ∧ answer.2.madeFor.uid ≠ answer.1.conn.uid ∧
      answer.2.config.endpoint = "https://a:9443" ∧ ¬MadeFrom easyTools recreated.secrets answer.1.conn answer.2 := by
  refine ⟨?_, _, List.mem_cons_self .., rfl, by decide, rfl, ?_⟩
  · apply reach_leaked.follow recreating
    refine ⟨rfl, trivial, ?_, trivial, ?_, trivial, trivial, trivial, trivial, trivial, trivial⟩
    · rintro stored ⟨⟩
      rfl
    · exact ⟨List.mem_cons_self .., rfl, List.mem_cons_self ..⟩
  · rintro ⟨auth, cred, ca, -, -, -, built, -⟩
    exact absurd (Except.ok.inj (buildConfig_endpoint easyTools built)) (by decide)

end Cases

end MKurator.Connections
