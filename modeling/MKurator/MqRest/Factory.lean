import MKurator.MqRest.Transport

/-! The client factory: from a connection and its Secrets to the configuration of a client, and `ForConnection` as the
steps between which other calls can run. -/

namespace MKurator.MqRest
open MKurator.Api MKurator.MqAdmin MKurator.Lib.Fallible MKurator.Lib.Strings

/-- A stored version of a connection. A connection that is created again under the same name gets another `uid`. -/
structure Connection extends QueueManagerConnection where
  uid : Nat

def connectionCacheKey (conn : QueueManagerConnection) : String := conn.metadata.ns ++ "/" ++ conn.metadata.name

inductive AuthMode where
  | basic
  | ltpa
  | clientCert
  deriving DecidableEq, Repr

structure ResolvedAuth where
  secretName : String
  mode : AuthMode
  deriving DecidableEq, Repr

/-- The Secret of the authentication union, if the member of its mode is set. -/
def unionAuthentication (a : MQWebAuthentication) : Option ResolvedAuth :=
  match a.mode with
  | .basic => a.basic.map (⟨·, .basic⟩)
  | .ltpa => a.ltpa.map (⟨·, .ltpa⟩)
  | .clientCert => a.clientCert.map (⟨·, .clientCert⟩)

def resolveAuthentication [UnicodeTables] (conn : QueueManagerConnection) : Except MqError ResolvedAuth :=
  match conn.spec.authentication.bind unionAuthentication, conn.spec.credentialsSecretRef with
  | some auth, _ => .ok auth
  | none, some name => .ok ⟨name, .basic⟩
  | none, none => .error (.plain ("resolve authentication for connection " ++ quote (connectionCacheKey conn) ++
      ": neither authentication union nor credentialsSecretRef set"))

theorem resolveAuthentication_of_spec [UnicodeTables] {first second : QueueManagerConnection} {auth : ResolvedAuth}
    (resolved : resolveAuthentication first = .ok auth) (same : first.spec = second.spec) :
    resolveAuthentication second = .ok auth := by
  rw [resolveAuthentication, same] at resolved
  rw [resolveAuthentication]
  cases union : second.spec.authentication.bind unionAuthentication with
  | some chosen => rwa [union] at resolved
  | none =>
    cases legacy : second.spec.credentialsSecretRef with
    | some name => rwa [union, legacy] at resolved
    | none =>
      rw [union, legacy] at resolved
      cases resolved

/-- The parts of `net/url`, `crypto/x509` and `crypto/tls` that a configuration depends on. -/
structure Tooling where
  parseURL : String → Except String String
  appendCertsFromPEM : String → Bool
  /-- The error of `X509KeyPair`, if there is one. -/
  x509KeyPair : String → String → Option String

/-- `resourceVersion` grows with every write to the API server. -/
structure SecretObject where
  resourceVersion : Nat
  data : StringMap

inductive SecretRead where
  | found (secret : SecretObject)
  | notFound (cause : String)
  | failed (cause : String)

def secretLookupError (name role context : String) : SecretRead → Except MqError SecretObject
  | .found secret => .ok secret
  | .notFound cause => .error (.secretNotFound name role (.plain cause))
  | .failed cause =>
    if context ≠ "" then .error (.wrapped ("get " ++ role ++ " secret for " ++ context) (.plain cause))
    else .error (.wrapped ("get " ++ role ++ " secret") (.plain cause))

def firstKey (data : StringMap) (keys : List String) : String := ((keys.map data.get).find? (· ≠ "")).getD ""

def credentialsFromSecret (data : StringMap) : Except MqError (String × String) :=
  let user := firstKey data ["username", "user", "mqAdminUser"]
  let pass := firstKey data ["password", "mqAdminPassword"]
  if pass = "" then
    .error (.plain "credentials secret missing password (expected key password or mqAdminPassword)")
  else .ok (if user = "" then "admin" else user, pass)

/-- A certificate's Secret has no user and password. -/
def checkCredentials (mode : AuthMode) (data : StringMap) : Except MqError (String × String) :=
  if mode = .clientCert then .ok ("", "") else credentialsFromSecret data

def credSecretRole : AuthMode → String
  | .clientCert => "client certificate"
  | _ => "credentials"

structure TLSClientConfig where
  insecureSkipVerify : Bool
  rootCAs : Option String
  certificate : Option (String × String)
  deriving DecidableEq, Repr

structure Config where
  endpoint : String
  restPrefix : String
  queueManager : String
  username : String
  password : String
  tls : TLSClientConfig
  ltpa : Option (String × String)
  clientCertMode : Bool
  deriving DecidableEq, Repr

section Building

variable (tools : Tooling)

def caPoolFromSecret (data : StringMap) : Except MqError String :=
  let pem := firstKey data ["tls.crt", "ca.crt", "ca.pem"]
  if pem = "" then .error (.plain "CA secret missing tls.crt or ca.crt")
  else if tools.appendCertsFromPEM pem then .ok pem else .error (.plain "parse CA certificate PEM")

/-- `buildServerTLSConfig`, once the CA Secret is read. -/
def buildServerTLSConfig (spec : QueueManagerConnectionSpec) (ca : Option SecretObject) : Except MqError TLSClientConfig := do
  let pool ← match ca with
    | some secret => (caPoolFromSecret tools secret.data).map some
    | none => pure none
  return ⟨(spec.tls.map TLSConfig.insecureSkipVerify).getD false, pool, none⟩

def defaultRESTPrefix : String := "/ibmmq/rest/v3"

def endpointAndPrefix (spec : QueueManagerConnectionSpec) : Except MqError (String × String) :=
  match tools.parseURL spec.endpoint with
  | .error cause => .error (.wrapped "parse endpoint" (.plain cause))
  | .ok endpoint => .ok (endpoint, if spec.restPrefix = "" then defaultRESTPrefix else spec.restPrefix)

theorem endpointAndPrefix_ok {spec : QueueManagerConnectionSpec} {found : String × String}
    (done : endpointAndPrefix tools spec = .ok found) : tools.parseURL spec.endpoint = .ok found.1 := by
  rw [endpointAndPrefix] at done
  cases parsed : tools.parseURL spec.endpoint with
  | error cause =>
    rw [parsed] at done
    cases done
  | ok endpoint =>
    rw [parsed] at done
    rw [← Except.ok.inj done]

variable [UnicodeTables]

def loadClientCertificate (credName certPEM keyPEM : String) : Except MqError (String × String) :=
  match tools.x509KeyPair certPEM keyPEM with
  | some cause => .error (.terminalCaused .invalidClientCertificate
      ("invalid client certificate keypair (tls.crt/tls.key) from Secret " ++ quote credName) (.plain cause))
  | none => .ok (certPEM, keyPEM)

/-- `buildConfig` and `buildClientCertConfig`, once the Secrets are read. -/
def buildConfig (conn : QueueManagerConnection) (auth : ResolvedAuth) (cred : SecretObject) (ca : Option SecretObject) :
    Except MqError Config :=
  match auth.mode with
  | .clientCert => do
    let tls ← buildServerTLSConfig tools conn.spec ca
    let pair ← loadClientCertificate tools auth.secretName (cred.data.get "tls.crt") (cred.data.get "tls.key")
    let (endpoint, restPrefix) ← endpointAndPrefix tools conn.spec
    return { endpoint := endpoint, restPrefix := restPrefix, queueManager := conn.spec.queueManager, username := "",
             password := "", tls := { tls with certificate := some pair }, ltpa := none, clientCertMode := true }
  | mode => do
    let (user, pass) ← credentialsFromSecret cred.data
    let tls ← buildServerTLSConfig tools conn.spec ca
    let (endpoint, restPrefix) ← endpointAndPrefix tools conn.spec
    return { endpoint := endpoint, restPrefix := restPrefix, queueManager := conn.spec.queueManager, username := user,
             password := pass, tls := tls, ltpa := if mode = .ltpa then some (user, pass) else none,
             clientCertMode := false }

theorem buildConfig_of_spec {first second : QueueManagerConnection} (same : first.spec = second.spec) (auth : ResolvedAuth)
    (cred : SecretObject) (ca : Option SecretObject) :
    buildConfig tools first auth cred ca = buildConfig tools second auth cred ca := by
  rw [buildConfig, buildConfig, same]

theorem buildConfig_endpoint {conn : QueueManagerConnection} {auth : ResolvedAuth} {cred : SecretObject}
    {ca : Option SecretObject} {config : Config} (built : buildConfig tools conn auth cred ca = .ok config) :
    tools.parseURL conn.spec.endpoint = .ok config.endpoint := by
  unfold buildConfig at built
  split at built
  · obtain ⟨tls, -, built⟩ := exists_of_bind_ok built
    obtain ⟨pair, -, built⟩ := exists_of_bind_ok built
    obtain ⟨found, parsed, done⟩ := exists_of_bind_ok built
    rw [← Except.ok.inj done]
    exact endpointAndPrefix_ok tools parsed
  · obtain ⟨login, -, built⟩ := exists_of_bind_ok built
    obtain ⟨tls, -, built⟩ := exists_of_bind_ok built
    obtain ⟨found, parsed, done⟩ := exists_of_bind_ok built
    rw [← Except.ok.inj done]
    exact endpointAndPrefix_ok tools parsed

structure MadeClient where
  config : Config
  madeFor : Connection
  credVersion : Nat
  caVersion : Option Nat

/-- `createClient` of what `buildConfig` returned. -/
def makeClient (conn : Connection) (auth : ResolvedAuth) (cred : SecretObject) (ca : Option SecretObject) :
    Except MqError MadeClient := do
  let config ← buildConfig tools conn.toQueueManagerConnection auth cred ca
  if config.queueManager = "" then throw (.plain "queue manager name is required")
  return ⟨config, conn, cred.resourceVersion, ca.map SecretObject.resourceVersion⟩

theorem makeClient_ok {conn : Connection} {auth : ResolvedAuth} {cred : SecretObject} {ca : Option SecretObject}
    {made : MadeClient} (done : makeClient tools conn auth cred ca = .ok made) :
    buildConfig tools conn.toQueueManagerConnection auth cred ca = .ok made.config ∧ made.madeFor = conn ∧
      made.credVersion = cred.resourceVersion ∧ made.caVersion = ca.map SecretObject.resourceVersion := by
  obtain ⟨config, built, done⟩ := exists_of_bind_ok done
  by_cases unnamed : config.queueManager = ""
  · rw [if_pos unnamed] at done
    cases done
  · rw [if_neg unnamed] at done
    cases done
    exact ⟨built, rfl, rfl, rfl⟩

end Building

/-- The version of the CA Secret is empty when there is none. -/
structure CacheFingerprint where
  generation : Nat
  credRV : Nat
  caRV : Option Nat
  deriving DecidableEq, Repr

structure CacheEntry extends CacheFingerprint where
  admin : MadeClient

def CacheEntry.matches (entry : CacheEntry) (fp : CacheFingerprint) : Bool :=
  entry.generation == fp.generation && entry.credRV == fp.credRV && entry.caRV == fp.caRV

theorem CacheEntry.matches_iff (entry : CacheEntry) (fp : CacheFingerprint) :
    entry.matches fp = true ↔ entry.toCacheFingerprint = fp := by
  rw [CacheEntry.matches, Bool.and_eq_true, Bool.and_eq_true, beq_iff_eq, beq_iff_eq, beq_iff_eq]
  obtain ⟨generation, credRV, caRV⟩ := fp
  rw [CacheFingerprint.mk.injEq, and_assoc]

section Calls

inductive Phase where
  | fingerprintCred
  | fingerprintCA (credRV : Nat) (caName : String)
  | lookup (fp : CacheFingerprint)
  | buildCred (fp : CacheFingerprint)
  | buildCA (fp : CacheFingerprint) (cred : SecretObject) (caName : String)
  | insert (fp : CacheFingerprint) (made : MadeClient)

def Phase.fingerprint : Phase → Option CacheFingerprint
  | .fingerprintCred => none
  | .fingerprintCA _ _ => none
  | .lookup fp => some fp
  | .buildCred fp => some fp
  | .buildCA fp _ _ => some fp
  | .insert fp _ => some fp

def Phase.locked : Phase → Bool
  | .lookup _ => true
  | .insert _ _ => true
  | _ => false

/-- What a `ForConnection` call works on, with the versions that its Secrets had when it started. -/
structure ForArgs where
  conn : Connection
  auth : ResolvedAuth
  credAtStart : Option Nat
  caAtStart : Option Nat

structure ForCall extends ForArgs where
  phase : Phase

def caSecretName (spec : QueueManagerConnectionSpec) : Option String := spec.tls.bind TLSConfig.caSecretRef

inductive CallProgress where
  | again (phase : Phase)
  | returned (result : Except MqError MadeClient)
  /-- The call returns the client that it has put into the cache. -/
  | stored (entry : CacheEntry)

/-- What both sections under the lock do first: a cached client with the same fingerprint is returned. -/
def hitOr (cached : Option CacheEntry) (fp : CacheFingerprint) (missed : CallProgress) : CallProgress :=
  match cached with
  | some entry => if entry.matches fp then .returned (.ok entry.admin) else missed
  | none => missed

variable [UnicodeTables] (tools : Tooling)

def ForCall.build (call : ForCall) (fp : CacheFingerprint) (cred : SecretObject) (ca : Option SecretObject) : CallProgress :=
  match makeClient tools call.conn call.auth cred ca with
  | .error e => .returned (.error e)
  | .ok made => .again (.insert fp made)

/-- One step of `ForConnection`: a read of a Secret, or one of the two sections under the lock. -/
def ForCall.advance (read : String → SecretRead) (cached : Option CacheEntry) (call : ForCall) : CallProgress :=
  match call.phase with
  | .fingerprintCred =>
    match secretLookupError call.auth.secretName "credentials" "cache fingerprint" (read call.auth.secretName) with
    | .error e => .returned (.error e)
    | .ok cred =>
      match caSecretName call.conn.spec with
      | none => .again (.lookup ⟨call.conn.metadata.generation, cred.resourceVersion, none⟩)
      | some caName => .again (.fingerprintCA cred.resourceVersion caName)
  | .fingerprintCA credRV caName =>
    match secretLookupError caName "CA" "cache fingerprint" (read caName) with
    | .error e => .returned (.error e)
    | .ok ca => .again (.lookup ⟨call.conn.metadata.generation, credRV, some ca.resourceVersion⟩)
  | .lookup fp => hitOr cached fp (.again (.buildCred fp))
  | .buildCred fp =>
    match secretLookupError call.auth.secretName (credSecretRole call.auth.mode) "" (read call.auth.secretName) with
    | .error e => .returned (.error e)
    | .ok cred =>
      -- The credentials are checked before the CA Secret is read.
      match checkCredentials call.auth.mode cred.data with
      | .error e => .returned (.error e)
      | .ok _ =>
        match caSecretName call.conn.spec with
        | none => call.build tools fp cred none
        | some caName => .again (.buildCA fp cred caName)
  | .buildCA fp cred caName =>
    match secretLookupError caName "CA" "" (read caName) with
    | .error e => .returned (.error e)
    | .ok ca => call.build tools fp cred (some ca)
  | .insert fp made => hitOr cached fp (.stored ⟨fp, made⟩)

end Calls

section Sequential

variable {cached : Option CacheEntry} {fp : CacheFingerprint}

theorem hitOr_of_miss (miss : cached.filter (CacheEntry.matches · fp) = none) (missed : CallProgress) :
    hitOr cached fp missed = missed := by
  cases cached with
  | none => rfl
  | some entry =>
    have other : ¬entry.matches fp = true := by
      intro same
      rw [Option.filter_some, if_pos same] at miss
      cases miss
    exact if_neg other

theorem hitOr_of_hit {entry : CacheEntry} (hit : cached.filter (CacheEntry.matches · fp) = some entry)
    (missed : CallProgress) : hitOr cached fp missed = .returned (.ok entry.admin) := by
  obtain ⟨found, same⟩ := Option.filter_eq_some_iff.mp hit
  rw [found]
  exact if_pos same

variable [UnicodeTables] (tools : Tooling) (read : String → SecretRead)

def cacheFingerprint (conn : Connection) (credName : String) : Except MqError CacheFingerprint := do
  let cred ← secretLookupError credName "credentials" "cache fingerprint" (read credName)
  match caSecretName conn.spec with
  | none => return ⟨conn.metadata.generation, cred.resourceVersion, none⟩
  | some caName =>
    let ca ← secretLookupError caName "CA" "cache fingerprint" (read caName)
    return ⟨conn.metadata.generation, cred.resourceVersion, some ca.resourceVersion⟩

def buildClient (conn : Connection) (auth : ResolvedAuth) : Except MqError MadeClient := do
  let cred ← secretLookupError auth.secretName (credSecretRole auth.mode) "" (read auth.secretName)
  let _ ← checkCredentials auth.mode cred.data
  match caSecretName conn.spec with
  | none => makeClient tools conn auth cred none
  | some caName =>
    let ca ← secretLookupError caName "CA" "" (read caName)
    makeClient tools conn auth cred (some ca)

def settleBuild (cached : Option CacheEntry) (fp : CacheFingerprint) :
    Except MqError MadeClient → Except MqError MadeClient × Option CacheEntry
  | .error e => (.error e, cached)
  | .ok made => (.ok made, some ⟨fp, made⟩)

def forFingerprint (cached : Option CacheEntry) (conn : Connection) (auth : ResolvedAuth) (fp : CacheFingerprint) :
    Except MqError MadeClient × Option CacheEntry :=
  match cached.filter (CacheEntry.matches · fp) with
  | some entry => (.ok entry.admin, cached)
  | none => settleBuild cached fp (buildClient tools read conn auth)

/-- `ForConnection` while nothing else runs: its result, and the entry under its key afterwards. -/
def forConnection (cached : Option CacheEntry) (conn : Connection) : Except MqError MadeClient × Option CacheEntry :=
  match resolveAuthentication conn.toQueueManagerConnection with
  | .error e => (.error e, cached)
  | .ok auth =>
    match cacheFingerprint read conn auth.secretName with
    | .error e => (.error e, cached)
    | .ok fp => forFingerprint tools read cached conn auth fp

def CallProgress.resume (cached : Option CacheEntry)
    (again : Phase → Option (Except MqError MadeClient × Option CacheEntry)) :
    CallProgress → Option (Except MqError MadeClient × Option CacheEntry)
  | .again phase => again phase
  | .returned result => some (result, cached)
  | .stored entry => some (.ok entry.admin, some entry)

def ForCall.finish (cached : Option CacheEntry) : Nat → ForCall → Option (Except MqError MadeClient × Option CacheEntry)
  | 0, _ => none
  | steps + 1, call =>
    (call.advance tools read cached).resume cached fun phase => ForCall.finish cached steps { call with phase := phase }

variable {tools read} {args : ForArgs} {steps : Nat}

theorem finish_insert (miss : cached.filter (CacheEntry.matches · fp) = none) (made : MadeClient) :
    ForCall.finish tools read cached (steps + 1) ⟨args, .insert fp made⟩ = some (.ok made, some ⟨fp, made⟩) := by
  change (hitOr cached fp (.stored ⟨fp, made⟩)).resume cached _ = _
  rw [hitOr_of_miss miss]
  rfl

theorem resume_build (miss : cached.filter (CacheEntry.matches · fp) = none) (phase : Phase) (cred : SecretObject)
    (ca : Option SecretObject) :
    ((ForCall.mk args phase).build tools fp cred ca).resume cached
        (fun later => ForCall.finish tools read cached (steps + 1) ⟨args, later⟩) =
      some (settleBuild cached fp (makeClient tools args.conn args.auth cred ca)) := by
  rw [ForCall.build]
  cases makeClient tools args.conn args.auth cred ca with
  | error e => rfl
  | ok made => exact finish_insert miss made

theorem finish_buildCA (miss : cached.filter (CacheEntry.matches · fp) = none) (cred : SecretObject) (caName : String) :
    ForCall.finish tools read cached (steps + 2) ⟨args, .buildCA fp cred caName⟩ =
      some (settleBuild cached fp (secretLookupError caName "CA" "" (read caName) >>= fun ca =>
        makeClient tools args.conn args.auth cred (some ca))) := by
  have moved : ForCall.advance tools read cached ⟨args, .buildCA fp cred caName⟩ =
    match secretLookupError caName "CA" "" (read caName) with
    | .error e => .returned (.error e)
    | .ok ca => ForCall.build tools ⟨args, .buildCA fp cred caName⟩ fp cred (some ca) := rfl
  rw [ForCall.finish, moved]
  cases secretLookupError caName "CA" "" (read caName) with
  | error e => rfl
  | ok ca => exact resume_build miss _ cred (some ca)

theorem finish_buildCred (miss : cached.filter (CacheEntry.matches · fp) = none) :
    ForCall.finish tools read cached (steps + 3) ⟨args, .buildCred fp⟩ =
      some (settleBuild cached fp (buildClient tools read args.conn args.auth)) := by
  rw [ForCall.finish, ForCall.advance, buildClient]
  cases secretLookupError args.auth.secretName (credSecretRole args.auth.mode) "" (read args.auth.secretName) with
  | error e => rfl
  | ok cred =>
    simp only [bind, Except.bind]
    cases checkCredentials args.auth.mode cred.data with
    | error e => rfl
    | ok login =>
      cases caSecretName args.conn.spec with
      | none => exact resume_build miss _ cred none
      | some caName => exact finish_buildCA miss cred caName

theorem finish_lookup : ForCall.finish tools read cached (steps + 4) ⟨args, .lookup fp⟩ =
    some (forFingerprint tools read cached args.conn args.auth fp) := by
  change (hitOr cached fp (.again (.buildCred fp))).resume cached _ = _
  rw [forFingerprint]
  cases hit : cached.filter (CacheEntry.matches · fp) with
  | some entry =>
    rw [hitOr_of_hit hit]
    rfl
  | none =>
    rw [hitOr_of_miss hit]
    exact finish_buildCred hit

theorem finish_fingerprintCA (credRV : Nat) (caName : String) :
    ForCall.finish tools read cached (steps + 5) ⟨args, .fingerprintCA credRV caName⟩ =
      some (match secretLookupError caName "CA" "cache fingerprint" (read caName) with
        | .error e => (.error e, cached)
        | .ok ca => forFingerprint tools read cached args.conn args.auth
            ⟨args.conn.metadata.generation, credRV, some ca.resourceVersion⟩) := by
  have moved : ForCall.advance tools read cached ⟨args, .fingerprintCA credRV caName⟩ =
    match secretLookupError caName "CA" "cache fingerprint" (read caName) with
    | .error e => .returned (.error e)
    | .ok ca => .again (.lookup ⟨args.conn.metadata.generation, credRV, some ca.resourceVersion⟩) := rfl
  rw [ForCall.finish, moved]
  cases secretLookupError caName "CA" "cache fingerprint" (read caName) with
  | error e => rfl
  | ok ca => exact finish_lookup

/-- A call that runs alone returns what `ForConnection` computes, in six steps at most. -/
theorem finish_eq_forConnection (resolved : resolveAuthentication args.conn.toQueueManagerConnection = .ok args.auth) :
    ForCall.finish tools read cached 6 ⟨args, .fingerprintCred⟩ = some (forConnection tools read cached args.conn) := by
  rw [forConnection, resolved, ForCall.finish, ForCall.advance]
  simp only [cacheFingerprint]
  cases secretLookupError args.auth.secretName "credentials" "cache fingerprint" (read args.auth.secretName) with
  | error e => rfl
  | ok cred =>
    cases caSecretName args.conn.spec with
    | none => exact finish_lookup
    | some caName =>
      refine (finish_fingerprintCA cred.resourceVersion caName).trans ?_
      cases found : secretLookupError caName "CA" "cache fingerprint" (read caName) with
      | error e => simp only [bind, Except.bind, found]
      | ok ca => simp only [bind, Except.bind, found, pure, Except.pure]

end Sequential

end MKurator.MqRest
