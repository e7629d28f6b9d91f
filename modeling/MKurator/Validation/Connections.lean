import MKurator.Connections.Secrets
import MKurator.Validation.Rules
import MKurator.Validation.Specs

/-! What the admission of a connection guarantees to the client factory, which resolves the authentication union in code of
its own. -/

namespace MKurator.Validation
open MKurator.Api MKurator.MqAdmin MKurator.MqRest MKurator.Connections MKurator.Lib.Strings MKurator.Controller

def memberRequired (a : MQWebAuthentication) (mode : MQWebAuthenticationMode) (member : Option String) (message : String) :
    Rule :=
  ⟨a.mode != mode || member.isSome, message⟩

def memberOnly (a : MQWebAuthentication) (mode : MQWebAuthenticationMode) (member : Option String) (message : String) : Rule :=
  ⟨!member.isSome || a.mode == mode, message⟩

def authenticationRules (a : MQWebAuthentication) : List Rule :=
  [memberRequired a .basic a.basic "authentication.basic is required when mode is Basic",
    memberRequired a .ltpa a.ltpa "authentication.ltpa is required when mode is LTPA",
    memberRequired a .clientCert a.clientCert "authentication.clientCert is required when mode is ClientCert",
    memberOnly a .basic a.basic "authentication.basic may only be set when mode is Basic",
    memberOnly a .ltpa a.ltpa "authentication.ltpa may only be set when mode is LTPA",
    memberOnly a .clientCert a.clientCert "authentication.clientCert may only be set when mode is ClientCert"]

def connectionRules (spec : QueueManagerConnectionSpec) : List Rule :=
  [⟨spec.credentialsSecretRef.isSome || spec.authentication.isSome,
      "either credentialsSecretRef or authentication must be set"⟩,
    ⟨!spec.credentialsSecretRef.isSome || !spec.authentication.isSome ||
        !(spec.authentication.bind MQWebAuthentication.basic).isSome ||
        spec.authentication.bind MQWebAuthentication.basic == spec.credentialsSecretRef,
      "credentialsSecretRef and authentication.basic.secretRef must name the same Secret"⟩] ++
    spec.authentication.elim [] authenticationRules

/-- A connection that has passed the checks of the CRD: its CEL rules, and `minLength: 1` of the names of Secrets. -/
structure AdmittedConnection extends QueueManagerConnection where
  rules : Admitted (connectionRules spec)
  named : ∀ name ∈ secretRefs spec, name ≠ ""

section AnyTables

variable [UnicodeTables]

/-- What the factory relies on: server certificates are verified unless the annotation permits to skip it, and the
Secrets that it will read are there. -/
structure FactoryReady (reader : Reader) (annotations : StringMap) (conn : QueueManagerConnection) : Prop where
  verified : ∀ tls ∈ conn.spec.tls, tls.insecureSkipVerify = true → allowInsecureTLS annotations = true
  present : ∀ name ∈ secretsRead conn, ∃ secret, reader.secret conn.metadata.ns name = .found secret

def TlsChecked (reader : Reader) (annotations : StringMap) (conn : QueueManagerConnection) : Prop :=
  ∀ tls ∈ conn.spec.tls, (tls.insecureSkipVerify = true → allowInsecureTLS annotations = true) ∧
    ∀ ca ∈ tls.caSecretRef, ∃ secret, reader.secret conn.metadata.ns ca = .found secret

section Resolution

variable {conn : QueueManagerConnection}

theorem resolve_clientCert {name : String} (keypair : clientCertSecret conn.spec = some name) :
    resolveAuthentication conn = .ok ⟨name, .clientCert⟩ := by
  obtain ⟨a, given, chosen⟩ := Option.bind_eq_some_iff.mp keypair
  obtain ⟨mode, member⟩ := Option.ite_none_right_eq_some.mp chosen
  have union : conn.spec.authentication.bind unionAuthentication = some ⟨name, .clientCert⟩ := by
    rw [given, Option.bind_some, unionAuthentication, mode, member]
    rfl
  rw [resolveAuthentication, union]

/-- Admission looks for the Secret that the factory resolves to. -/
theorem resolve_credentials {auth : ResolvedAuth} (keypair : clientCertSecret conn.spec = none)
    (resolved : resolveAuthentication conn = .ok auth) : auth.secretName = credentialsSecret conn.spec := by
  rw [resolveAuthentication] at resolved
  rw [credentialsSecret]
  cases given : conn.spec.authentication with
  | none =>
    cases legacy : conn.spec.credentialsSecretRef with
    | none => simp [given, legacy] at resolved
    | some name =>
      simp only [given, legacy, Option.bind_none, Except.ok.injEq] at resolved
      rw [← resolved]
      rfl
  | some a =>
    rw [clientCertSecret, given, Option.bind_some] at keypair
    rw [given, Option.bind_some, unionAuthentication] at resolved
    -- the member of the mode decides, and the legacy field where it is missing
    cases mode : a.mode with
    | basic =>
      rw [mode] at resolved
      cases member : a.basic <;> cases legacy : conn.spec.credentialsSecretRef <;>
        simp [member, legacy] at resolved <;> simp [mode, member, ← resolved]
    | ltpa =>
      rw [mode] at resolved
      cases member : a.ltpa <;> cases legacy : conn.spec.credentialsSecretRef <;>
        simp [member, legacy] at resolved <;> simp [mode, member, ← resolved]
    | clientCert =>
      rw [mode, if_pos rfl] at keypair
      rw [mode, keypair] at resolved
      cases legacy : conn.spec.credentialsSecretRef <;> simp [legacy] at resolved
      simp [mode, ← resolved]

theorem ca_mem_secretsRead {auth : ResolvedAuth} {tls : TLSConfig} {ca : String}
    (resolved : resolveAuthentication conn = .ok auth) (given : conn.spec.tls = some tls)
    (trusted : tls.caSecretRef = some ca) : ca ∈ secretsRead conn := by
  rw [secretsRead_of_ok resolved]
  apply List.mem_cons_of_mem
  rw [caSecretName, given, Option.bind_some, trusted]
  exact List.mem_singleton.mpr rfl

end Resolution

def keypairData : StringMap := AList.insert "tls.key" "KEY" (AList.insert "tls.crt" "CERT" ∅)

def keypairOnly (name : String) : Reader where
  connection _ _ := .notFound (.plain "not found")
  secret _ asked := if asked = name then .found ⟨name, keypairData⟩ else .notFound (.plain "not found")
  channels _ _ := .items []

omit [UnicodeTables] in
theorem keypairOnly_found {name asked ns : String} {secret : Secret}
    (found : (keypairOnly name).secret ns asked = .found secret) : asked = name := by
  by_contra other
  have missing : (keypairOnly name).secret ns asked = .notFound (.plain "not found") := if_neg other
  rw [missing] at found
  cases found

section Admission

variable {reader : Reader} {annotations : StringMap} {conn : AdmittedConnection}

theorem factoryReady_of_credentials (keypair : clientCertSecret conn.spec = none)
    (admitted : (validateQueueManagerConnectionSpecV1Beta1 reader conn.metadata.ns annotations conn.spec).2 = []) :
    FactoryReady reader annotations conn.toQueueManagerConnection := by
  rw [validateQueueManagerConnectionSpecV1Beta1_eq_nil_iff, SecretsPresent, keypair] at admitted
  obtain ⟨credentials, tlsChecked⟩ := admitted
  refine ⟨fun tls given => (tlsChecked tls given).1, fun name read => ?_⟩
  have named : name ≠ "" := conn.named name (mem_secretRefs_of_read read)
  cases resolved : resolveAuthentication conn.toQueueManagerConnection with
  | error e =>
    rw [secretsRead, resolved] at read
    cases read
  | ok auth =>
    have chosen := resolve_credentials keypair resolved
    rw [secretsRead_of_ok resolved] at read
    rcases List.mem_cons.mp read with rfl | trusted
    · rw [chosen] at named ⊢
      exact credentials named
    · obtain ⟨tls, given, ca⟩ := Option.bind_eq_some_iff.mp (Option.mem_toList.mp trusted)
      have found := (tlsChecked tls given).2
      rw [ca] at found
      exact found named

theorem factoryReady_of_keypair {name : String} (keypair : clientCertSecret conn.spec = some name)
    (admitted : (validateQueueManagerConnectionSpecV1Beta1 reader conn.metadata.ns annotations conn.spec).2 = []) :
    FactoryReady reader annotations conn.toQueueManagerConnection ↔
      TlsChecked reader annotations conn.toQueueManagerConnection := by
  rw [validateQueueManagerConnectionSpecV1Beta1_eq_nil_iff, SecretsPresent, keypair] at admitted
  obtain ⟨secret, found, -⟩ := admitted
  have resolved := resolve_clientCert keypair
  constructor
  · rintro ⟨verified, present⟩ tls given
    exact ⟨verified tls given, fun ca trusted => present ca (ca_mem_secretsRead resolved given trusted)⟩
  · intro checked
    refine ⟨fun tls given => (checked tls given).1, fun asked read => ?_⟩
    rw [secretsRead_of_ok resolved] at read
    rcases List.mem_cons.mp read with rfl | trusted
    · exact ⟨secret, found⟩
    · obtain ⟨tls, given, ca⟩ := Option.bind_eq_some_iff.mp (Option.mem_toList.mp trusted)
      exact (checked tls given).2 asked ca

theorem keypairOnly_admits {name : String} (keypair : clientCertSecret conn.spec = some name) :
    (validateQueueManagerConnectionSpecV1Beta1 (keypairOnly name) conn.metadata.ns annotations conn.spec).2 = [] := by
  rw [validateQueueManagerConnectionSpecV1Beta1_eq_nil_iff, SecretsPresent, keypair]
  have cert : keypairData.get "tls.crt" ≠ "" := by decide
  have key : keypairData.get "tls.key" ≠ "" := by decide
  exact ⟨⟨name, keypairData⟩, if_pos rfl, cert, key⟩

/-- An admitted connection is one that the factory can rely on, unless it authenticates with a client certificate: then
its TLS section was not looked at. The guarantee holds for a spec, whatever the cluster and the annotations are, when
that section has nothing to check. -/
theorem admission_factoryReady_iff (conn : AdmittedConnection) :
    (∀ (reader : Reader) (annotations : StringMap),
      (validateQueueManagerConnectionSpecV1Beta1 reader conn.metadata.ns annotations conn.spec).2 = [] →
        (FactoryReady reader annotations conn.toQueueManagerConnection ↔
          ((clientCertSecret conn.spec).isSome → TlsChecked reader annotations conn.toQueueManagerConnection))) ∧
    ((∀ (reader : Reader) (annotations : StringMap),
      (validateQueueManagerConnectionSpecV1Beta1 reader conn.metadata.ns annotations conn.spec).2 = [] →
        FactoryReady reader annotations conn.toQueueManagerConnection) ↔
      ∀ name ∈ clientCertSecret conn.spec, ∀ tls ∈ conn.spec.tls,
        tls.insecureSkipVerify = false ∧ ∀ ca ∈ tls.caSecretRef, ca = name) := by
  have exact : ∀ (reader : Reader) (annotations : StringMap),
      (validateQueueManagerConnectionSpecV1Beta1 reader conn.metadata.ns annotations conn.spec).2 = [] →
        (FactoryReady reader annotations conn.toQueueManagerConnection ↔
          ((clientCertSecret conn.spec).isSome → TlsChecked reader annotations conn.toQueueManagerConnection)) := by
    intro reader annotations admitted
    cases keypair : clientCertSecret conn.spec with
    | none => exact iff_of_true (factoryReady_of_credentials keypair admitted) nofun
    | some name =>
      rw [factoryReady_of_keypair keypair admitted]
      exact ⟨fun checked _ => checked, fun checked => checked rfl⟩
  refine ⟨exact, fun ready name keypair tls given => ?_, fun harmless reader annotations admitted => ?_⟩
  · obtain ⟨verified, present⟩ := ready (keypairOnly name) ∅ (keypairOnly_admits keypair)
    refine ⟨Bool.eq_false_iff.mpr fun insecure => ?_, fun ca trusted => ?_⟩
    · exact absurd (verified tls given insecure) (by decide)
    · obtain ⟨secret, found⟩ := present ca (ca_mem_secretsRead (resolve_clientCert keypair) given trusted)
      exact keypairOnly_found found
  · rw [exact reader annotations admitted]
    intro usesKeypair tls given
    obtain ⟨name, keypair⟩ := Option.isSome_iff_exists.mp usesKeypair
    obtain ⟨verified, trusted⟩ := harmless name keypair tls given
    rw [validateQueueManagerConnectionSpecV1Beta1_eq_nil_iff, SecretsPresent, keypair] at admitted
    obtain ⟨secret, found, -⟩ := admitted
    refine ⟨fun insecure => absurd (verified.symm.trans insecure) Bool.false_ne_true, fun ca named => ?_⟩
    rw [trusted ca named]
    exact ⟨secret, found⟩

end Admission

end AnyTables

def connectionWith (tls : TLSConfig) (authentication : MQWebAuthentication) : QueueManagerConnection where
  metadata := ⟨"qm1", "default", 1, none, [], ∅⟩
  spec := ⟨"QM1", "https://mq:9443", "", some tls, none, some authentication⟩
  conditions := []
  observedGeneration := 0

def certificateConnection : AdmittedConnection where
  toQueueManagerConnection := connectionWith ⟨true, some "mq-ca"⟩ ⟨.clientCert, none, none, some "mq-cert"⟩
  rules := by decide
  named := by decide

section Cases

attribute [local instance] asciiTables

/-- Without the annotation and without the CA Secret, an mTLS connection that skips verification is admitted. -/
theorem insecure_certificateConnection_admitted :
    (validateQueueManagerConnectionSpecV1Beta1 (keypairOnly "mq-cert") "default" ∅ certificateConnection.spec).2 = [] ∧
      ¬ FactoryReady (keypairOnly "mq-cert") ∅ certificateConnection.toQueueManagerConnection := by
  refine ⟨rfl, fun ready => ?_⟩
  exact absurd (ready.verified ⟨true, some "mq-ca"⟩ rfl rfl) (by decide)

def loginConnection : AdmittedConnection where
  toQueueManagerConnection := connectionWith ⟨false, some "mq-secret"⟩ ⟨.ltpa, none, some "mq-secret", none⟩
  rules := by decide
  named := by decide

theorem admission_factoryReady_loginConnection :
    FactoryReady (keypairOnly "mq-secret") ∅ loginConnection.toQueueManagerConnection :=
  ((admission_factoryReady_iff loginConnection).1 (keypairOnly "mq-secret") ∅ rfl).mpr nofun

end Cases

end MKurator.Validation
