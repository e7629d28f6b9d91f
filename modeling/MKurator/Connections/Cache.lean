import MKurator.Connections.Registry
import MKurator.Controller.Policy
import MKurator.Lib.Processes
import MKurator.Lib.System
import MKurator.Lib.Versions

/-! The client factory at work: connections and Secrets change on the API server while any number of `ForConnection` and
`ReleaseConnection` calls of the reconcilers interleave. -/

namespace MKurator.Connections
open MKurator.Api MKurator.MqAdmin MKurator.MqRest MKurator.Controller MKurator.Lib MKurator.Lib.Strings
open MKurator.Lib.Maps MKurator.Lib.Processes MKurator.Lib.Versions

abbrev Secrets := Store (String × String) SecretObject

inductive Caller where
  | connectionReconciler
  | workloadReconciler
  deriving DecidableEq, Repr

/-- The API server, the factory's cache, the `ForConnection` calls in progress, and all clients that calls returned. -/
structure FactoryWorld where
  registry : Registry
  secrets : Secrets
  cache : AList fun _ : String => CacheEntry
  calls : List ForCall
  answers : List (ForCall × MadeClient)

inductive FactoryEvent where
  | registry (event : RegistryEvent)
  | writeSecret (name : String × String) (data : StringMap)
  | deleteSecret (name : String × String)
  | release (conn : Connection)
  | call (caller : Caller) (conn : Connection)
  /-- The call at this position takes its next step. With a `failure` the API server does not answer it. -/
  | proceed (index : Nat) (failure : Option String)

def caSecret (conn : Connection) : Option (String × String) := (caSecretName conn.spec).map (conn.metadata.ns, ·)

namespace FactoryWorld

def start : FactoryWorld := ⟨Registry.empty, Store.empty, ∅, [], []⟩

def enter [UnicodeTables] (w : FactoryWorld) (conn : Connection) : FactoryWorld :=
  match resolveAuthentication conn.toQueueManagerConnection with
  | .error _ => w
  | .ok auth =>
    let call : ForCall :=
      { conn := conn, auth := auth, phase := .fingerprintCred
        credAtStart := w.secrets.versionAt SecretObject.resourceVersion (conn.metadata.ns, auth.secretName)
        caAtStart := (caSecret conn).bind (w.secrets.versionAt SecretObject.resourceVersion) }
    { w with calls := w.calls ++ [call] }

def read [UnicodeTables] (w : FactoryWorld) (failure : Option String) (ns name : String) : SecretRead :=
  match failure, w.secrets.current.lookup (ns, name) with
  | some cause, _ => .failed cause
  | none, some secret => .found secret
  | none, none => .notFound ("secrets " ++ quote name ++ " not found")

def settle (w : FactoryWorld) (index : Nat) (call : ForCall) : CallProgress → FactoryWorld
  | .again phase => { w with calls := w.calls.set index { call with phase := phase } }
  | .returned (.error _) => { w with calls := w.calls.eraseIdx index }
  | .returned (.ok admin) => { w with calls := w.calls.eraseIdx index, answers := (call, admin) :: w.answers }
  | .stored entry =>
    { w with
      cache := w.cache.insert (keyOf call.conn) entry
      calls := w.calls.eraseIdx index
      answers := (call, entry.admin) :: w.answers }

def next [UnicodeTables] (tools : Tooling) (w : FactoryWorld) : FactoryEvent → FactoryWorld
  | .registry event => { w with registry := w.registry.apply event }
  | .writeSecret name data => { w with secrets := w.secrets.write name (⟨·, data⟩) }
  | .deleteSecret name => { w with secrets := w.secrets.delete name }
  | .release conn => { w with cache := w.cache.erase (keyOf conn), registry := w.registry.markReleased conn }
  | .call _ conn => w.enter conn
  | .proceed index failure =>
    match w.calls[index]? with
    | none => w
    | some call =>
      w.settle index call
        (call.advance tools (w.read failure call.conn.metadata.ns) (w.cache.lookup (keyOf call.conn)))

/-- The reconcilers act on some version of a connection, which may be an old one. -/
def valid (w : FactoryWorld) : FactoryEvent → Prop
  | .registry event => w.registry.valid event
  | .writeSecret _ _ => True
  | .deleteSecret _ => True
  | .release conn => conn ∈ w.registry.history ∧ conn.metadata.deletionTimestamp.isSome = true ∧ finalizing conn
  | .call .connectionReconciler conn =>
    conn ∈ w.registry.history ∧ conn.metadata.deletionTimestamp = none ∧ finalizing conn
  | .call .workloadReconciler conn => conn ∈ w.registry.history ∧ conditionsReady conn.conditions = true
  | .proceed _ _ => True

end FactoryWorld

def clientFactory [UnicodeTables] (tools : Tooling) : System FactoryWorld FactoryEvent :=
  ⟨FactoryWorld.valid, FactoryWorld.next tools⟩

inductive CARead (secrets : Secrets) (conn : Connection) : Option SecretObject → Prop
  | unused (unnamed : caSecret conn = none) : CARead secrets conn none
  | read {name : String × String} (named : caSecret conn = some name) {secret : SecretObject}
      (recorded : (name, secret) ∈ secrets.written) : CARead secrets conn (some secret)

/-- The fingerprint is of the connection and no older than what the call could have read when it started. -/
structure Noted (call : ForArgs) (fp : CacheFingerprint) : Prop where
  generation : fp.generation = call.conn.metadata.generation
  cred : AtLeast call.credAtStart (some fp.credRV)
  ca : AtLeast call.caAtStart fp.caRV

/-- The client was made from Secrets no older than those of the fingerprint. -/
structure Covers (fp : CacheFingerprint) (admin : MadeClient) : Prop where
  cred : fp.credRV ≤ admin.credVersion
  ca : AtLeast fp.caRV admin.caVersion

def NoOlderCA (secrets : Secrets) (conn : Connection) (low : Option Nat) : Prop :=
  match caSecret conn with
  | none => low = none
  | some name => secrets.NoOlder SecretObject.resourceVersion name low

variable {secrets after : Secrets} {conn : Connection}

theorem caSecret_of_name {name : String} (named : caSecretName conn.spec = some name) :
    caSecret conn = some (conn.metadata.ns, name) := by
  rw [caSecret, named]
  rfl

theorem caSecret_of_none (unnamed : caSecretName conn.spec = none) : caSecret conn = none := by
  rw [caSecret, unnamed]
  rfl

theorem CARead.later {ca : Option SecretObject} (read : CARead secrets conn ca)
    (grown : Store.Later SecretObject.resourceVersion secrets after) : CARead after conn ca := by
  cases read with
  | unused unnamed => exact .unused unnamed
  | read named recorded => exact .read named (grown.written recorded)

theorem NoOlderCA.later {low : Option Nat} (noOlder : NoOlderCA secrets conn low)
    (grown : Store.Later SecretObject.resourceVersion secrets after) : NoOlderCA after conn low := by
  rw [NoOlderCA] at noOlder ⊢
  cases named : caSecret conn with
  | none => rwa [named] at noOlder
  | some name =>
    rw [named] at noOlder
    exact grown.noOlder _ _ noOlder

section Soundness

variable [UnicodeTables] (tools : Tooling)

/-- The client is what `buildConfig` makes of the connection and of written versions of its Secrets. -/
def MadeFrom (secrets : Secrets) (conn : Connection) (admin : MadeClient) : Prop :=
  ∃ auth cred ca, resolveAuthentication conn.toQueueManagerConnection = .ok auth ∧
    ((conn.metadata.ns, auth.secretName), cred) ∈ secrets.written ∧ CARead secrets conn ca ∧
    buildConfig tools conn.toQueueManagerConnection auth cred ca = .ok admin.config ∧
    admin.credVersion = cred.resourceVersion ∧ admin.caVersion = ca.map SecretObject.resourceVersion

def PhaseSound (secrets : Secrets) (call : ForArgs) : Phase → Prop
  | .fingerprintCred =>
    secrets.NoOlder SecretObject.resourceVersion (call.conn.metadata.ns, call.auth.secretName) call.credAtStart ∧
      NoOlderCA secrets call.conn call.caAtStart
  | .fingerprintCA credRV caName =>
    AtLeast call.credAtStart (some credRV) ∧
      secrets.NoOlder SecretObject.resourceVersion (call.conn.metadata.ns, call.auth.secretName) (some credRV) ∧
      caSecret call.conn = some (call.conn.metadata.ns, caName) ∧ NoOlderCA secrets call.conn call.caAtStart
  | .lookup fp | .buildCred fp =>
    Noted call fp ∧
      secrets.NoOlder SecretObject.resourceVersion (call.conn.metadata.ns, call.auth.secretName) (some fp.credRV) ∧
      NoOlderCA secrets call.conn fp.caRV
  | .buildCA fp cred caName =>
    Noted call fp ∧ NoOlderCA secrets call.conn fp.caRV ∧ caSecret call.conn = some (call.conn.metadata.ns, caName) ∧
      ((call.conn.metadata.ns, call.auth.secretName), cred) ∈ secrets.written ∧ fp.credRV ≤ cred.resourceVersion
  | .insert fp made =>
    Noted call fp ∧ Covers fp made ∧ made.madeFor = call.conn ∧ MadeFrom tools secrets call.conn made

structure EntrySound (registry : Registry) (secrets : Secrets) (key : String) (entry : CacheEntry) : Prop where
  known : entry.admin.madeFor ∈ registry.history
  named : keyOf entry.admin.madeFor = key
  generation : entry.generation = entry.admin.madeFor.metadata.generation
  covers : Covers entry.toCacheFingerprint entry.admin
  made : MadeFrom tools secrets entry.admin.madeFor entry.admin

/-- The call returned a client of its own object, from Secrets no older than those that it had seen. -/
structure Answered (secrets : Secrets) (call : ForCall) (admin : MadeClient) : Prop where
  uid : admin.madeFor.uid = call.conn.uid
  seen : ∃ fp, call.phase.fingerprint = some fp ∧ Noted call.toForArgs fp ∧ Covers fp admin
  made : MadeFrom tools secrets call.conn admin

structure CallSound (registry : Registry) (secrets : Secrets) (call : ForCall) : Prop where
  known : call.conn ∈ registry.history
  resolved : resolveAuthentication call.conn.toQueueManagerConnection = .ok call.auth
  phase : PhaseSound tools secrets call.toForArgs call.phase

structure Sound (w : FactoryWorld) : Prop where
  versioned : w.registry.Versioned
  secrets : w.secrets.Sound SecretObject.resourceVersion
  calls : ∀ call ∈ w.calls, CallSound tools w.registry w.secrets call
  entries : ∀ key entry, w.cache.lookup key = some entry → EntrySound tools w.registry w.secrets key entry

def AllAnswered (about : Connection → Prop) (w : FactoryWorld) : Prop :=
  ∀ answer ∈ w.answers, about answer.1.conn → Answered tools w.secrets answer.1 answer.2

variable {tools} {admin : MadeClient} {call : ForCall} {w : FactoryWorld}

theorem MadeFrom.later (made : MadeFrom tools secrets conn admin)
    (grown : Store.Later SecretObject.resourceVersion secrets after) : MadeFrom tools after conn admin := by
  obtain ⟨auth, cred, ca, resolved, recorded, read, rest⟩ := made
  exact ⟨auth, cred, ca, resolved, grown.written recorded, read.later grown, rest⟩

theorem MadeFrom.of_spec {other : Connection} (made : MadeFrom tools secrets other admin) (spec : other.spec = conn.spec)
    (ns : other.metadata.ns = conn.metadata.ns) : MadeFrom tools secrets conn admin := by
  obtain ⟨auth, cred, ca, resolved, recorded, read, built, versions⟩ := made
  have sameCA : caSecret other = caSecret conn := by rw [caSecret, caSecret, spec, ns]
  refine ⟨auth, cred, ca, resolveAuthentication_of_spec resolved spec, ns ▸ recorded, ?_,
    (buildConfig_of_spec tools spec auth cred ca).symm.trans built, versions⟩
  cases read with
  | unused unnamed => exact .unused (sameCA.symm.trans unnamed)
  | read named recorded => exact .read (sameCA.symm.trans named) recorded

theorem PhaseSound.later {args : ForArgs} {phase : Phase} (sound : PhaseSound tools secrets args phase)
    (grown : Store.Later SecretObject.resourceVersion secrets after) : PhaseSound tools after args phase := by
  cases phase with
  | fingerprintCred => exact ⟨grown.noOlder _ _ sound.1, sound.2.later grown⟩
  | fingerprintCA credRV caName =>
    obtain ⟨noted, cred, named, ca⟩ := sound
    exact ⟨noted, grown.noOlder _ _ cred, named, ca.later grown⟩
  | lookup fp | buildCred fp =>
    obtain ⟨noted, cred, ca⟩ := sound
    exact ⟨noted, grown.noOlder _ _ cred, ca.later grown⟩
  | buildCA fp cred caName =>
    obtain ⟨noted, ca, named, recorded, le⟩ := sound
    exact ⟨noted, ca.later grown, named, grown.written recorded, le⟩
  | insert fp made =>
    obtain ⟨noted, covers, own, made⟩ := sound
    exact ⟨noted, covers, own, made.later grown⟩

inductive Moved (tools : Tooling) (secrets : Secrets) (cached : Option CacheEntry) (call : ForCall) : CallProgress → Prop
  | again (phase : Phase) (sound : PhaseSound tools secrets call.toForArgs phase) :
      Moved tools secrets cached call (.again phase)
  | failed (e : MqError) : Moved tools secrets cached call (.returned (.error e))
  | hit (entry : CacheEntry) (found : cached = some entry) (locked : call.phase.locked = true)
      (observed : call.phase.fingerprint = some entry.toCacheFingerprint) (noted : Noted call.toForArgs entry.toCacheFingerprint) :
      Moved tools secrets cached call (.returned (.ok entry.admin))
  | stored (fp : CacheFingerprint) (made : MadeClient) (inserting : call.phase = .insert fp made) :
      Moved tools secrets cached call (.stored ⟨fp, made⟩)

theorem lookup_of_read {failure : Option String} {ns name role context : String} {secret : SecretObject}
    (found : secretLookupError name role context (w.read failure ns name) = .ok secret) :
    w.secrets.current.lookup (ns, name) = some secret := by
  unfold FactoryWorld.read at found
  cases failure with
  | some cause =>
    simp only [secretLookupError] at found
    split at found <;> cases found
  | none =>
    cases present : w.secrets.current.lookup (ns, name) with
    | none =>
      rw [present] at found
      cases found
    | some object =>
      rw [present] at found
      exact congrArg some (Except.ok.inj found)

theorem moved_build {cached : Option CacheEntry} {fp : CacheFingerprint} {cred : SecretObject} {ca : Option SecretObject}
    (resolved : resolveAuthentication call.conn.toQueueManagerConnection = .ok call.auth) (noted : Noted call.toForArgs fp)
    (recorded : ((call.conn.metadata.ns, call.auth.secretName), cred) ∈ secrets.written)
    (credLe : fp.credRV ≤ cred.resourceVersion) (read : CARead secrets call.conn ca)
    (caLe : AtLeast fp.caRV (ca.map SecretObject.resourceVersion)) :
    Moved tools secrets cached call (call.build tools fp cred ca) := by
  rw [ForCall.build]
  cases done : makeClient tools call.conn call.auth cred ca with
  | error e => exact .failed e
  | ok made =>
    obtain ⟨built, own, credVersion, caVersion⟩ := makeClient_ok tools done
    refine .again _ ⟨noted, ⟨credVersion ▸ credLe, caVersion ▸ caLe⟩, own, ?_⟩
    exact ⟨call.auth, cred, ca, resolved, recorded, read, built, credVersion, caVersion⟩

theorem moved_hitOr {cached : Option CacheEntry} {fp : CacheFingerprint} {missed : CallProgress}
    (locked : call.phase.locked = true) (observed : call.phase.fingerprint = some fp) (noted : Noted call.toForArgs fp)
    (otherwise : Moved tools secrets cached call missed) :
    Moved tools secrets cached call (hitOr cached fp missed) := by
  cases cached with
  | none => exact otherwise
  | some entry =>
    rw [hitOr]
    by_cases same : entry.matches fp = true
    · rw [if_pos same]
      obtain rfl := (entry.matches_iff fp).mp same
      exact .hit entry rfl locked observed noted
    · rw [if_neg same]
      exact otherwise

theorem moved_advance (secretsSound : w.secrets.Sound SecretObject.resourceVersion) (sound : CallSound tools w.registry w.secrets call)
    (failure : Option String) (cached : Option CacheEntry) :
    Moved tools w.secrets cached call (call.advance tools (w.read failure call.conn.metadata.ns) cached) := by
  have phaseSound := sound.phase
  rw [ForCall.advance]
  cases at_ : call.phase with
  | fingerprintCred =>
    rw [at_] at phaseSound
    obtain ⟨credFresh, caFresh⟩ := phaseSound
    simp only
    cases found : secretLookupError call.auth.secretName "credentials" "cache fingerprint"
        (w.read failure call.conn.metadata.ns call.auth.secretName) with
    | error e => exact .failed e
    | ok cred =>
      have present := lookup_of_read found
      have credSeen := credFresh.read present
      have credLater := secretsSound.noOlder present
      cases named : caSecretName call.conn.spec with
      | none =>
        have unnamed := caSecret_of_none named
        rw [NoOlderCA, unnamed] at caFresh
        refine .again _ ⟨⟨rfl, credSeen, caFresh ▸ AtLeast.refl none⟩, credLater, ?_⟩
        rw [NoOlderCA, unnamed]
      | some caName => exact .again _ ⟨credSeen, credLater, caSecret_of_name named, caFresh⟩
  | fingerprintCA credRV caName =>
    rw [at_] at phaseSound
    obtain ⟨credSeen, credLater, named, caFresh⟩ := phaseSound
    simp only
    cases found : secretLookupError caName "CA" "cache fingerprint" (w.read failure call.conn.metadata.ns caName) with
    | error e => exact .failed e
    | ok ca =>
      have present := lookup_of_read found
      rw [NoOlderCA, named] at caFresh
      refine .again _ ⟨⟨rfl, credSeen, caFresh.read present⟩, credLater, ?_⟩
      rw [NoOlderCA, named]
      exact secretsSound.noOlder present
  | lookup fp =>
    rw [at_] at phaseSound
    exact moved_hitOr (at_ ▸ rfl) (at_ ▸ rfl) phaseSound.1 (.again _ phaseSound)
  | buildCred fp =>
    rw [at_] at phaseSound
    obtain ⟨noted, credLater, caLater⟩ := phaseSound
    simp only
    cases found : secretLookupError call.auth.secretName (credSecretRole call.auth.mode) ""
        (w.read failure call.conn.metadata.ns call.auth.secretName) with
    | error e => exact .failed e
    | ok cred =>
      have present := lookup_of_read found
      have recorded := secretsSound.recorded _ _ present
      have credLe := (credLater.read present).le
      simp only
      split
      · exact .failed _
      · cases named : caSecretName call.conn.spec with
        | none =>
          have unnamed := caSecret_of_none named
          rw [NoOlderCA, unnamed] at caLater
          exact moved_build sound.resolved noted recorded credLe (.unused unnamed) (caLater ▸ AtLeast.refl none)
        | some caName => exact .again _ ⟨noted, caLater, caSecret_of_name named, recorded, credLe⟩
  | buildCA fp cred caName =>
    rw [at_] at phaseSound
    obtain ⟨noted, caLater, named, recorded, credLe⟩ := phaseSound
    simp only
    cases found : secretLookupError caName "CA" "" (w.read failure call.conn.metadata.ns caName) with
    | error e => exact .failed e
    | ok ca =>
      have present := lookup_of_read found
      rw [NoOlderCA, named] at caLater
      exact moved_build sound.resolved noted recorded credLe (.read named (secretsSound.recorded _ _ present))
        (caLater.read present)
  | insert fp made =>
    rw [at_] at phaseSound
    exact moved_hitOr (at_ ▸ rfl) (at_ ▸ rfl) phaseSound.1 (.stored fp made at_)

section Steps

variable {registry registry' : Registry} {key : String} {entry : CacheEntry} {about : Connection → Prop}

theorem CallSound.later (sound : CallSound tools registry secrets call) (known : registry.history ⊆ registry'.history)
    (grown : Store.Later SecretObject.resourceVersion secrets after) : CallSound tools registry' after call :=
  ⟨known sound.known, sound.resolved, sound.phase.later grown⟩

theorem EntrySound.later (sound : EntrySound tools registry secrets key entry) (known : registry.history ⊆ registry'.history)
    (grown : Store.Later SecretObject.resourceVersion secrets after) : EntrySound tools registry' after key entry :=
  { sound with known := known sound.known, made := sound.made.later grown }

theorem Answered.later (answered : Answered tools secrets call admin)
    (grown : Store.Later SecretObject.resourceVersion secrets after) : Answered tools after call admin :=
  { answered with made := answered.made.later grown }

theorem Sound.outside (sound : Sound tools w) (versioned : registry.Versioned)
    (known : w.registry.history ⊆ registry.history) (secretsSound : secrets.Sound SecretObject.resourceVersion)
    (grown : Store.Later SecretObject.resourceVersion w.secrets secrets) :
    Sound tools { w with registry := registry, secrets := secrets } where
  versioned := versioned
  secrets := secretsSound
  calls call member := (sound.calls call member).later known grown
  entries key entry found := (sound.entries key entry found).later known grown

theorem Sound.enter (sound : Sound tools w) (known : conn ∈ w.registry.history) : Sound tools (w.enter conn) := by
  rw [FactoryWorld.enter]
  cases resolved : resolveAuthentication conn.toQueueManagerConnection with
  | error e => exact sound
  | ok auth =>
    refine ⟨sound.versioned, sound.secrets, fun call member => ?_, sound.entries⟩
    rcases List.mem_append.mp member with old | new
    · exact sound.calls call old
    · obtain rfl := List.mem_singleton.mp new
      refine ⟨known, resolved, sound.secrets.noOlder_versionAt _, ?_⟩
      rw [NoOlderCA]
      cases named : caSecret conn with
      | none => rfl
      | some name => exact sound.secrets.noOlder_versionAt name

inductive Proceeded (tools : Tooling) (w : FactoryWorld) (index : Nat) : FactoryWorld → Prop
  | idle : Proceeded tools w index w
  | again (call : ForCall) (moving : CallSound tools w.registry w.secrets call) :
      Proceeded tools w index { w with calls := w.calls.set index call }
  | failed : Proceeded tools w index { w with calls := w.calls.eraseIdx index }
  | hit (call : ForCall) (found : w.calls[index]? = some call) (locked : call.phase.locked = true) (entry : CacheEntry)
      (cached : w.cache.lookup (keyOf call.conn) = some entry)
      (observed : call.phase.fingerprint = some entry.toCacheFingerprint)
      (noted : Noted call.toForArgs entry.toCacheFingerprint) :
      Proceeded tools w index
        { w with calls := w.calls.eraseIdx index, answers := (call, entry.admin) :: w.answers }
  | stored (call : ForCall) (found : w.calls[index]? = some call) (entry : CacheEntry)
      (inserting : call.phase = .insert entry.toCacheFingerprint entry.admin)
      (noted : Noted call.toForArgs entry.toCacheFingerprint) (covers : Covers entry.toCacheFingerprint entry.admin)
      (madeFor : entry.admin.madeFor = call.conn) (madeFrom : MadeFrom tools w.secrets call.conn entry.admin) :
      Proceeded tools w index
        { w with
          cache := w.cache.insert (keyOf call.conn) entry
          calls := w.calls.eraseIdx index
          answers := (call, entry.admin) :: w.answers }

theorem Sound.proceed_cases (sound : Sound tools w) (index : Nat) (failure : Option String) :
    Proceeded tools w index (w.next tools (.proceed index failure)) := by
  rw [FactoryWorld.next]
  cases found : w.calls[index]? with
  | none => exact .idle
  | some call =>
    have called := sound.calls call (List.mem_of_getElem? found)
    have moved := moved_advance sound.secrets called failure (w.cache.lookup (keyOf call.conn))
    simp only
    generalize call.advance tools (w.read failure call.conn.metadata.ns) (w.cache.lookup (keyOf call.conn)) = progress
      at moved ⊢
    cases moved with
    | again phase phaseSound => exact .again _ ⟨called.known, called.resolved, phaseSound⟩
    | failed e => exact .failed
    | hit entry cached locked observed noted => exact .hit call found locked entry cached observed noted
    | stored fp made inserting =>
      have phaseSound := called.phase
      rw [inserting] at phaseSound
      obtain ⟨noted, covers, madeFor, madeFrom⟩ := phaseSound
      exact .stored call found ⟨fp, made⟩ inserting noted covers madeFor madeFrom

theorem Sound.proceed (sound : Sound tools w) (index : Nat) (failure : Option String) :
    Sound tools (w.next tools (.proceed index failure)) := by
  have moved := sound.proceed_cases index failure
  generalize w.next tools (.proceed index failure) = next at moved ⊢
  have others : ∀ other ∈ w.calls.eraseIdx index, CallSound tools w.registry w.secrets other :=
    fun other member => sound.calls other (List.mem_of_mem_eraseIdx member)
  cases moved with
  | idle => exact sound
  | again call moving => exact ⟨sound.versioned, sound.secrets, forall_set sound.calls moving, sound.entries⟩
  | failed => exact ⟨sound.versioned, sound.secrets, others, sound.entries⟩
  | hit call found locked entry cached observed noted => exact ⟨sound.versioned, sound.secrets, others, sound.entries⟩
  | stored call found entry inserting noted covers madeFor madeFrom =>
    have known := (sound.calls call (List.mem_of_getElem? found)).known
    refine ⟨sound.versioned, sound.secrets, others, fun key other cached => ?_⟩
    rcases lookup_insert_cases cached with ⟨rfl, rfl⟩ | ⟨-, before⟩
    · rw [← madeFor] at madeFrom known
      exact ⟨known, madeFor ▸ rfl, madeFor ▸ noted.generation, covers, madeFrom⟩
    · exact sound.entries key other before

theorem Sound.release (sound : Sound tools w) (conn : Connection) : Sound tools (w.next tools (.release conn)) := by
  have history : w.registry.history ⊆ (w.registry.markReleased conn).history :=
    (Registry.history_markReleased conn).symm ▸ List.Subset.refl _
  have outside := sound.outside (sound.versioned.markReleased conn) history sound.secrets (Store.Later.refl _)
  refine ⟨outside.versioned, outside.secrets, outside.calls, fun key entry cached => ?_⟩
  exact outside.entries key entry (lookup_erase_cases cached).2

theorem Sound.next (sound : Sound tools w) {event : FactoryEvent} (possible : w.valid event) :
    Sound tools (w.next tools event) := by
  cases event with
  | registry event =>
    exact sound.outside (sound.versioned.apply possible) (fun _ known => Registry.history_apply possible known) sound.secrets
      (Store.Later.refl _)
  | writeSecret name data =>
    exact sound.outside sound.versioned (List.Subset.refl _) (sound.secrets.write (fun _ => rfl) name)
      (Store.later_write (fun _ => rfl) name)
  | deleteSecret name =>
    exact sound.outside sound.versioned (List.Subset.refl _) (sound.secrets.delete name) (Store.later_delete name)
  | release conn => exact sound.release conn
  | call caller conn =>
    cases caller with
    | connectionReconciler => exact sound.enter possible.1
    | workloadReconciler => exact sound.enter possible.1
  | proceed index failure => exact sound.proceed index failure

theorem sound_start : Sound tools FactoryWorld.start where
  versioned := Registry.versioned_empty
  secrets := Store.sound_empty
  calls _ member := by cases member
  entries _ _ found := by cases found

theorem allAnswered_start : AllAnswered tools about FactoryWorld.start := by
  intro answer member
  cases member

/-- A cached client with the fingerprint of a call was made from the call's spec, if it was made for the same object. -/
theorem Sound.answered_hit (sound : Sound tools w) (called : CallSound tools w.registry w.secrets call)
    (cached : w.cache.lookup key = some entry) (own : entry.admin.madeFor.uid = call.conn.uid)
    (observed : call.phase.fingerprint = some entry.toCacheFingerprint)
    (noted : Noted call.toForArgs entry.toCacheFingerprint) : Answered tools w.secrets call entry.admin := by
  have entrySound := sound.entries key entry cached
  have generation : entry.admin.madeFor.metadata.generation = call.conn.metadata.generation :=
    entrySound.generation.symm.trans noted.generation
  have spec := sound.versioned.oneSpec _ entrySound.known _ called.known own generation
  have name := sound.versioned.oneName _ entrySound.known _ called.known own
  exact ⟨own, ⟨_, observed, noted, entrySound.covers⟩, entrySound.made.of_spec spec (Prod.mk.inj name).1⟩

/-- A call about these connections that looks into the cache finds no client of another object there. -/
def OwnEntries (about : Connection → Prop) (w : FactoryWorld) : FactoryEvent → Prop
  | .proceed index _ => ∀ call entry, w.calls[index]? = some call → about call.conn → call.phase.locked = true →
      w.cache.lookup (keyOf call.conn) = some entry → entry.admin.madeFor.uid = call.conn.uid
  | _ => True

theorem AllAnswered.proceed (answers : AllAnswered tools about w) (sound : Sound tools w) {index : Nat}
    {failure : Option String} (own : OwnEntries about w (.proceed index failure)) :
    AllAnswered tools about (w.next tools (.proceed index failure)) := by
  have moved := sound.proceed_cases index failure
  generalize w.next tools (.proceed index failure) = next at moved ⊢
  cases moved with
  | idle => exact answers
  | again call moving => exact answers
  | failed => exact answers
  | hit call found locked entry cached observed noted =>
    have called := sound.calls call (List.mem_of_getElem? found)
    apply List.forall_mem_cons.mpr ⟨?_, answers⟩
    intro concerned
    exact sound.answered_hit called cached (own call entry found concerned locked cached) observed noted
  | stored call found entry inserting noted covers madeFor madeFrom =>
    apply List.forall_mem_cons.mpr ⟨?_, answers⟩
    exact fun _ => ⟨congrArg Connection.uid madeFor, ⟨_, inserting ▸ rfl, noted, covers⟩, madeFrom⟩

theorem AllAnswered.next (answers : AllAnswered tools about w) (sound : Sound tools w) {event : FactoryEvent}
    (own : OwnEntries about w event) : AllAnswered tools about (w.next tools event) := by
  cases event with
  | registry event => exact answers
  | writeSecret name data =>
    have grown : Store.Later SecretObject.resourceVersion w.secrets (w.secrets.write name (⟨·, data⟩)) :=
      Store.later_write (fun _ => rfl) name
    exact fun answer member concerned => (answers answer member concerned).later grown
  | deleteSecret name =>
    exact fun answer member concerned => (answers answer member concerned).later (Store.later_delete name)
  | release conn => exact answers
  | call caller conn =>
    rw [FactoryWorld.next, FactoryWorld.enter]
    split
    · exact answers
    · exact answers
  | proceed index failure => exact answers.proceed sound own

end Steps

end Soundness

end MKurator.Connections
