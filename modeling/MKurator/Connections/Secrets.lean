import Mathlib.Data.List.Perm.Basic
import MKurator.MqRest.Factory

/-! The Secrets that a connection depends on: those that `ForConnection` reads, and the watch that reconciles a connection
again when one of them changes. The informer behind the watch keeps no credentials. -/

namespace MKurator.Connections
open MKurator.Api MKurator.MqAdmin MKurator.MqRest MKurator.Lib.Fallible MKurator.Lib.Strings

section Reads

def secretRefs (spec : QueueManagerConnectionSpec) : List String :=
  spec.credentialsSecretRef.toList ++ (spec.tls.bind TLSConfig.caSecretRef).toList ++
    spec.authentication.elim [] fun a => a.basic.toList ++ a.ltpa.toList ++ a.clientCert.toList

theorem mem_secretRefs_of_union {spec : QueueManagerConnectionSpec} {a : MQWebAuthentication} {auth : ResolvedAuth}
    (given : spec.authentication = some a) (chosen : unionAuthentication a = some auth) :
    auth.secretName ∈ secretRefs spec := by
  have member : auth.secretName ∈ a.basic.toList ++ a.ltpa.toList ++ a.clientCert.toList := by
    rw [unionAuthentication] at chosen
    cases mode : a.mode with
    | basic =>
      rw [mode] at chosen
      obtain ⟨name, set, rfl⟩ := Option.map_eq_some_iff.mp chosen
      simp [set]
    | ltpa =>
      rw [mode] at chosen
      obtain ⟨name, set, rfl⟩ := Option.map_eq_some_iff.mp chosen
      simp [set]
    | clientCert =>
      rw [mode] at chosen
      obtain ⟨name, set, rfl⟩ := Option.map_eq_some_iff.mp chosen
      simp [set]
  rw [secretRefs, given]
  exact List.mem_append_right _ member

theorem cacheFingerprint_congr {conn : Connection} {credName : String} {read other : String → SecretRead}
    (same : ∀ name ∈ credName :: (caSecretName conn.spec).toList, read name = other name) :
    cacheFingerprint read conn credName = cacheFingerprint other conn credName := by
  obtain ⟨cred, rest⟩ := List.forall_mem_cons.mp same
  rw [cacheFingerprint, cacheFingerprint, cred]
  cases named : caSecretName conn.spec with
  | none => rfl
  | some caName =>
    rw [named] at rest
    have ca : read caName = other caName := rest caName (List.mem_singleton.mpr rfl)
    simp only [ca]

variable [UnicodeTables]

/-- The credentials Secret that `resolveAuthentication` chooses, and the CA Secret. -/
def secretsRead (conn : QueueManagerConnection) : List String :=
  match resolveAuthentication conn with
  | .error _ => []
  | .ok auth => auth.secretName :: (caSecretName conn.spec).toList

theorem secretsRead_of_ok {conn : QueueManagerConnection} {auth : ResolvedAuth}
    (resolved : resolveAuthentication conn = .ok auth) :
    secretsRead conn = auth.secretName :: (caSecretName conn.spec).toList := by
  rw [secretsRead, resolved]

theorem mem_secretRefs_of_resolved {conn : QueueManagerConnection} {auth : ResolvedAuth}
    (resolved : resolveAuthentication conn = .ok auth) : auth.secretName ∈ secretRefs conn.spec := by
  rw [resolveAuthentication] at resolved
  cases union : conn.spec.authentication.bind unionAuthentication with
  | some chosen =>
    rw [union] at resolved
    obtain ⟨a, given, chosen⟩ := Option.bind_eq_some_iff.mp union
    exact Except.ok.inj resolved ▸ mem_secretRefs_of_union given chosen
  | none =>
    cases legacy : conn.spec.credentialsSecretRef with
    | some name =>
      rw [union, legacy] at resolved
      rw [← Except.ok.inj resolved, secretRefs, legacy]
      exact List.mem_append_left _ (List.mem_append_left _ (List.mem_singleton.mpr rfl))
    | none =>
      rw [union, legacy] at resolved
      cases resolved

theorem mem_secretRefs_of_read {conn : QueueManagerConnection} {name : String} (read : name ∈ secretsRead conn) :
    name ∈ secretRefs conn.spec := by
  cases resolved : resolveAuthentication conn with
  | error e =>
    rw [secretsRead, resolved] at read
    cases read
  | ok auth =>
    rw [secretsRead_of_ok resolved] at read
    rcases List.mem_cons.mp read with rfl | trusted
    · exact mem_secretRefs_of_resolved resolved
    · exact List.mem_append_left _ (List.mem_append_right _ trusted)

theorem buildClient_congr (tools : Tooling) {conn : Connection} {auth : ResolvedAuth} {read other : String → SecretRead}
    (same : ∀ name ∈ auth.secretName :: (caSecretName conn.spec).toList, read name = other name) :
    buildClient tools read conn auth = buildClient tools other conn auth := by
  obtain ⟨cred, rest⟩ := List.forall_mem_cons.mp same
  rw [buildClient, buildClient, cred]
  cases named : caSecretName conn.spec with
  | none => rfl
  | some caName =>
    rw [named] at rest
    have ca : read caName = other caName := rest caName (List.mem_singleton.mpr rfl)
    simp only [ca]

theorem forConnection_congr (tools : Tooling) (cached : Option CacheEntry) {conn : Connection}
    {read other : String → SecretRead}
    (same : ∀ name ∈ secretsRead conn.toQueueManagerConnection, read name = other name) :
    forConnection tools read cached conn = forConnection tools other cached conn := by
  rw [forConnection, forConnection]
  cases resolved : resolveAuthentication conn.toQueueManagerConnection with
  | error e => rfl
  | ok auth =>
    rw [secretsRead_of_ok resolved] at same
    simp only [cacheFingerprint_congr same, forFingerprint, buildClient_congr tools same]

def VersionEnters (conn : Connection) (name : String) : Prop :=
  ∃ auth, resolveAuthentication conn.toQueueManagerConnection = .ok auth ∧
    ∃ (read : String → SecretRead) (secret : SecretObject) (bumped : Nat), read name = .found secret ∧
      cacheFingerprint (Function.update read name (.found { secret with resourceVersion := bumped })) conn auth.secretName ≠
        cacheFingerprint read conn auth.secretName

theorem VersionEnters.mem_secretsRead {conn : Connection} {name : String} (enters : VersionEnters conn name) :
    name ∈ secretsRead conn.toQueueManagerConnection := by
  obtain ⟨auth, resolved, read, secret, bumped, -, differs⟩ := enters
  rw [secretsRead_of_ok resolved]
  by_contra unread
  apply differs
  apply cacheFingerprint_congr
  intro other member
  have apart : other ≠ name := by
    rintro rfl
    exact unread member
  exact Function.update_of_ne apart _ _

end Reads

section Watch

/-- A Secret as the API server and the informers hold it. A Go map may be nil. -/
structure SecretResource where
  ns : String
  name : String
  resourceVersion : String
  data : Option StringMap
  stringData : Option StringMap

/-- `reflect.DeepEqual` of two maps tells a nil map from an empty one. -/
def deepEqual : Option StringMap → Option StringMap → Bool
  | none, none => true
  | some first, some second => decide (first.entries.Perm second.entries)
  | _, _ => false

def size (m : Option StringMap) : Nat := m.elim 0 fun entries => entries.entries.length

def stripSecretCredentialTransform (secret : SecretResource) : SecretResource :=
  { secret with data := none, stringData := none }

def secretCredentialsStripped (secret : SecretResource) : Bool :=
  size secret.data == 0 && size secret.stringData == 0

def dataChanged (old new : SecretResource) : Bool :=
  !deepEqual old.data new.data || !deepEqual old.stringData new.stringData

def secretContentChanged (old new : SecretResource) : Bool :=
  if dataChanged old new then true
  else secretCredentialsStripped old && secretCredentialsStripped new && old.resourceVersion != "" &&
    new.resourceVersion != "" && old.resourceVersion != new.resourceVersion

inductive WatchedObject where
  | secret (secret : SecretResource)
  | other

inductive WatchEvent where
  | create (object : WatchedObject)
  | update (old new : WatchedObject)
  | delete (object : WatchedObject)

def secretWatchPredicates : WatchEvent → Bool
  | .create (.secret _) => true
  | .create .other => false
  | .update (.secret old) (.secret new) => secretContentChanged old new
  | .update _ _ => false
  | .delete (.secret _) => true
  | .delete .other => false

def connectionReferencesSecret (conn : Connection) (secretName : String) : Bool :=
  conn.spec.credentialsSecretRef == some secretName || conn.spec.tls.bind TLSConfig.caSecretRef == some secretName ||
    conn.spec.authentication.any fun a => a.basic == some secretName || a.ltpa == some secretName ||
      a.clientCert == some secretName

structure Request where
  ns : String
  name : String
  deriving DecidableEq, Repr

/-- `listed` is the answer to the List of the connections in the Secret's namespace. -/
def requestsForSecret (listed : Except MqError (List Connection)) (secret : SecretResource) : List Request :=
  match listed with
  | .error _ => []
  | .ok items => items.filterMap fun conn =>
      if connectionReferencesSecret conn secret.name then some ⟨secret.ns, conn.metadata.name⟩ else none

def secretEnqueueMapper (listed : Except MqError (List Connection)) : WatchedObject → List Request
  | .secret secret => requestsForSecret listed secret
  | .other => []

def listInNamespace (stored : List Connection) (ns : String) : List Connection :=
  stored.filter fun conn => conn.metadata.ns == ns

/-- The watch looks at every reference of a spec, in use or not. -/
theorem connectionReferencesSecret_iff (conn : Connection) (name : String) :
    connectionReferencesSecret conn name = true ↔ name ∈ secretRefs conn.spec := by
  rw [connectionReferencesSecret, secretRefs]
  cases conn.spec.authentication <;> simp [or_assoc]

end Watch

section Rotation

def SecretResource.content (secret : SecretResource) (key : String) : Option String :=
  secret.data.bind fun data => data.lookup key

/-- An update of a Secret as the API server makes it: every version is named, and a new content is a new version. -/
structure SecretUpdate where
  old : SecretResource
  new : SecretResource
  sameNamespace : old.ns = new.ns
  sameName : old.name = new.name
  oldVersioned : old.resourceVersion ≠ ""
  newVersioned : new.resourceVersion ≠ ""
  bumps : old.content ≠ new.content → old.resourceVersion ≠ new.resourceVersion

/-- The event that the watch receives: the informer only has stripped copies. -/
def SecretUpdate.event (update : SecretUpdate) : WatchEvent :=
  .update (.secret (stripSecretCredentialTransform update.old)) (.secret (stripSecretCredentialTransform update.new))

theorem SecretUpdate.admitted {update : SecretUpdate} (changed : update.old.content ≠ update.new.content) :
    secretWatchPredicates update.event = true := by
  have hidden : dataChanged (stripSecretCredentialTransform update.old) (stripSecretCredentialTransform update.new) = false :=
    rfl
  have bumped := update.bumps changed
  change secretContentChanged _ _ = true
  rw [secretContentChanged, hidden]
  simp [secretCredentialsStripped, stripSecretCredentialTransform, size, update.oldVersioned, update.newVersioned, bumped]

theorem mem_requestsForSecret {items : List Connection} {conn : Connection} {secret : SecretResource}
    (listed : conn ∈ items) (referenced : connectionReferencesSecret conn secret.name = true) :
    ⟨secret.ns, conn.metadata.name⟩ ∈ requestsForSecret (.ok items) secret :=
  List.mem_filterMap.mpr ⟨conn, listed, if_pos referenced⟩

section AnyTables

variable [UnicodeTables]

/-- A change of a Secret that a connection's client depends on is let through by the watch, and reaches that connection. -/
theorem rotation_enqueued {stored : List Connection} {conn : Connection} (present : conn ∈ stored) (update : SecretUpdate)
    (sameNamespace : update.new.ns = conn.metadata.ns) (enters : VersionEnters conn update.new.name)
    (changed : update.old.content ≠ update.new.content) :
    secretWatchPredicates update.event = true ∧
      ⟨conn.metadata.ns, conn.metadata.name⟩ ∈ secretEnqueueMapper (.ok (listInNamespace stored update.new.ns))
        (.secret (stripSecretCredentialTransform update.new)) := by
  refine ⟨update.admitted changed, ?_⟩
  have listed : conn ∈ listInNamespace stored update.new.ns := by
    apply List.mem_filter.mpr
    exact ⟨present, beq_iff_eq.mpr sameNamespace.symm⟩
  have referenced : connectionReferencesSecret conn update.new.name = true :=
    (connectionReferencesSecret_iff conn _).mpr (mem_secretRefs_of_read enters.mem_secretsRead)
  rw [← sameNamespace]
  exact mem_requestsForSecret listed referenced

end AnyTables

section Cases

attribute [local instance] asciiTables

def loginConnection : Connection where
  metadata := ⟨"qm1", "default", 1, none, [queueManagerConnectionFinalizer], ∅⟩
  spec := ⟨"QM1", "https://mq:9443", "", some ⟨false, some "mq-ca"⟩, none, some ⟨.ltpa, none, some "mq-login", none⟩⟩
  conditions := []
  observedGeneration := 0
  uid := 0

def passwordSecret (version password : String) : SecretResource :=
  ⟨"default", "mq-login", version, some (AList.insert "password" password ∅), none⟩

def passwordRotation : SecretUpdate where
  old := passwordSecret "7" "old"
  new := passwordSecret "9" "new"
  sameNamespace := rfl
  sameName := rfl
  oldVersioned := by decide
  newVersioned := by decide
  bumps := fun _ => by decide

theorem rotation_enqueued_loginConnection :
    secretWatchPredicates passwordRotation.event = true ∧
      ⟨"default", "qm1"⟩ ∈ secretEnqueueMapper (.ok (listInNamespace [loginConnection] "default"))
        (.secret (stripSecretCredentialTransform passwordRotation.new)) := by
  have enters : VersionEnters loginConnection "mq-login" := by
    refine ⟨⟨"mq-login", .ltpa⟩, rfl, fun _ => .found ⟨7, ∅⟩, ⟨7, ∅⟩, 9, rfl, fun same => ?_⟩
    exact absurd (congrArg (fun result => result.toOption.map CacheFingerprint.credRV) same) (by decide)
  have changed : passwordRotation.old.content ≠ passwordRotation.new.content := fun same =>
    absurd (congrFun same "password") (by decide)
  exact rotation_enqueued (List.mem_singleton.mpr rfl) passwordRotation rfl enters changed

end Cases

end Rotation

end MKurator.Connections
