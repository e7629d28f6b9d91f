import MKurator.Validation.Fields
import MKurator.MqAdmin.Match

/-! The stateful checks of each kind's spec, with the warnings they give. -/

namespace MKurator.Validation
open MKurator.Api MKurator.MqAdmin MKurator.Lib.Strings MKurator.Controller

def queueLocalKnownAttrs : List String :=
  ["maxdepth", "descr", "defpsist", "get", "put", "maxmsglen", "share", "defopts", "bothresh", "boqname", "usage",
    "trigtype", "trigdata", "trigmpri", "trigint", "trigdpth", "cluster", "clusnl"]

def queueAliasKnownAttrs : List String := ["targq", "targtype", "descr", "target"]

def queueRemoteKnownAttrs : List String :=
  ["rname", "rqmname", "xmitq", "descr", "remotequeue", "remotemanager", "transmissionqueue"]

def topicKnownAttrs : List String :=
  ["topstr", "topicstr", "descr", "pub", "sub", "defpsist", "pubscope", "subscope", "toptype", "cluster"]

def channelKnownAttrs : List String :=
  ["descr", "trptype", "sharecnv", "maxmsgl", "mcauser", "maxinst", "maxinstc", "sslciph", "sslcauth", "conname", "xmitq"]

def deprecatedQueueAttributeFields : List (String × String) :=
  [("maxdepth", "spec.maxDepth"), ("descr", "spec.description"), ("defpsist", "spec.defPersistence"),
    ("get", "spec.get"), ("put", "spec.put"), ("targq", "spec.targetQueue"), ("target", "spec.targetQueue"),
    ("xmitq", "spec.xmitQueue"), ("transmissionqueue", "spec.xmitQueue"), ("rqmname", "spec.remoteQueueManager"),
    ("remotemanager", "spec.remoteQueueManager")]

def deprecatedTopicAttributeFields : List (String × String) :=
  [("topstr", "spec.topicString"), ("topicstr", "spec.topicString"), ("descr", "spec.description"),
    ("pub", "spec.publish"), ("sub", "spec.subscribe"), ("defpsist", "spec.defPersistence"),
    ("pubscope", "spec.publishScope"), ("subscope", "spec.subscribeScope")]

def deprecatedChannelAttributeFields : List (String × String) :=
  [("descr", "spec.description"), ("maxmsgl", "spec.maxMsgLength"), ("trptype", "spec.transportType"),
    ("sharecnv", "spec.shareConv"), ("mcauser", "spec.mcaUser"), ("maxinst", "spec.maxInstances"),
    ("maxinstc", "spec.maxInstancesClient"), ("sslciph", "spec.sslCipherSpec"), ("sslcauth", "spec.sslClientAuth"),
    ("conname", "spec.connName"), ("xmitq", "spec.xmitQueue")]

section Warnings

variable [UnicodeTables]

def unknownAttributeWarnings (attrs : StringMap) (known : List String) : List String :=
  attrs.keys.filterMap fun key =>
    if normalizeAttrKey key ∈ known ∨ key ∈ known then none
    else some ("attribute key " ++ quote key ++ " is not in the drift-check allow-list; " ++
      "it may still be applied by MQ but is ignored for drift detection")

def unknownQueueAttributeWarnings (type : QueueType) (attrs : StringMap) : List String :=
  unknownAttributeWarnings attrs (match normalizeQueueType type with
    | .aliasQueue => queueAliasKnownAttrs
    | .remoteQueue => queueRemoteKnownAttrs
    | _ => queueLocalKnownAttrs)

def unknownTopicAttributeWarnings (attrs : StringMap) : List String := unknownAttributeWarnings attrs topicKnownAttrs

def unknownChannelAttributeWarnings (attrs : StringMap) : List String := unknownAttributeWarnings attrs channelKnownAttrs

def deprecatedAttributeWarnings (attrs : StringMap) (replacements : List (String × String)) : List String :=
  attrs.keys.filterMap fun key =>
    (replacements.lookup (normalizeAttrKey key)).map fun replacement =>
      "spec.attributes[" ++ quote key ++ "] is deprecated; use " ++ replacement

def deprecatedQueueAttributeWarnings (attrs : StringMap) : List String :=
  deprecatedAttributeWarnings attrs deprecatedQueueAttributeFields

def deprecatedTopicAttributeWarnings (attrs : StringMap) : List String :=
  deprecatedAttributeWarnings attrs deprecatedTopicAttributeFields

def deprecatedChannelAttributeWarnings (attrs : StringMap) : List String :=
  deprecatedAttributeWarnings attrs deprecatedChannelAttributeFields

end Warnings

section Workloads

variable [UnicodeTables] (reader : Reader) (namespaceName : String)

def validateQueueSpecV1Beta1 (spec : Api.QueueSpec) : List String × List FieldError :=
  (deprecatedQueueAttributeWarnings spec.attributes ++ unknownQueueAttributeWarnings spec.type spec.attributes,
    validateConnectionRef reader namespaceName spec.connectionRef connectionRefPath)

def validateTopicSpecV1Beta1 (spec : Api.TopicSpec) : List String × List FieldError :=
  (deprecatedTopicAttributeWarnings spec.attributes ++ unknownTopicAttributeWarnings spec.attributes,
    validateConnectionRef reader namespaceName spec.connectionRef connectionRefPath)

/-- The key as it is written, then its normal form. -/
def attrValue (attrs : StringMap) (key : String) : String :=
  match attrs.lookup key with
  | some value => value
  | none => attrs.get (normalizeAttrKey key)

def senderRequirement (attrs : StringMap) (value key path detail : String) : List FieldError :=
  if value = "" ∧ attrValue attrs key = "" then [.requiredAt path detail] else []

def validateChannelTypeRequirementsV1Beta1 (spec : Api.ChannelSpec) : List FieldError :=
  match normalizeChannelType spec.type with
  | .sdr =>
    senderRequirement spec.attributes spec.connName "conname" (fieldPath ["spec", "connName"])
        "SDR channels require connName or attributes.conname" ++
      senderRequirement spec.attributes spec.xmitQueue "xmitq" (fieldPath ["spec", "xmitQueue"])
        "SDR channels require xmitQueue or attributes.xmitq"
  | _ => []

def validateChannelSpecV1Beta1 (spec : Api.ChannelSpec) : List String × List FieldError :=
  (deprecatedChannelAttributeWarnings spec.attributes ++ unknownChannelAttributeWarnings spec.attributes,
    validateConnectionRef reader namespaceName spec.connectionRef connectionRefPath ++
      validateChannelTypeRequirementsV1Beta1 spec)

def SenderComplete (spec : Api.ChannelSpec) : Prop :=
  normalizeChannelType spec.type = .sdr →
    (spec.connName ≠ "" ∨ attrValue spec.attributes "conname" ≠ "") ∧
      (spec.xmitQueue ≠ "" ∨ attrValue spec.attributes "xmitq" ≠ "")

theorem senderRequirement_eq_nil_iff (attrs : StringMap) (value key path detail : String) :
    senderRequirement attrs value key path detail = [] ↔ value ≠ "" ∨ attrValue attrs key ≠ "" := by
  unfold senderRequirement
  by_cases missing : value = "" ∧ attrValue attrs key = ""
  · simp [missing]
  · rw [if_neg missing]
    exact iff_of_true rfl (not_and_or.mp missing)

theorem validateChannelTypeRequirementsV1Beta1_eq_nil_iff (spec : Api.ChannelSpec) :
    validateChannelTypeRequirementsV1Beta1 spec = [] ↔ SenderComplete spec := by
  unfold validateChannelTypeRequirementsV1Beta1 SenderComplete
  split
  next sender => simp [sender, senderRequirement_eq_nil_iff]
  next other => simpa using fun sender => absurd sender other

theorem validateChannelSpecV1Beta1_eq_nil_iff (spec : Api.ChannelSpec) :
    (validateChannelSpecV1Beta1 reader namespaceName spec).2 = [] ↔
      ConnectionUsable reader namespaceName spec.connectionRef ∧ SenderComplete spec := by
  rw [validateChannelSpecV1Beta1, List.append_eq_nil_iff, validateConnectionRef_eq_nil_iff,
    validateChannelTypeRequirementsV1Beta1_eq_nil_iff]

def validateChannelAuthRuleSpecV1Beta1 (spec : ChannelAuthRuleSpec) : List FieldError :=
  let errs := validateConnectionRef reader namespaceName spec.connectionRef connectionRefPath
  if spec.ruleType = some .blockAddr ∧ spec.channelName = "*" then errs
  else errs ++ validateManagedChannelRef reader namespaceName spec.connectionRef spec.channelName
    (fieldPath ["spec", "channelName"])

def validateAuthorityRecordSpecV1Beta1 (spec : AuthorityRecordSpec) : List FieldError :=
  validateConnectionRef reader namespaceName spec.connectionRef connectionRefPath

end Workloads

section Connections

variable [UnicodeTables] (reader : Reader) (namespaceName : String)

/-- `strconv.ParseBool` of the opt-in annotation. -/
def allowInsecureTLS (annotations : StringMap) : Bool :=
  annotations.get allowInsecureTLSAnnotation ∈ ["1", "t", "T", "TRUE", "true", "True"]

def credentialsSecretHasUsername (data : StringMap) : Bool :=
  ["username", "user", "mqAdminUser"].any fun key => data.get key != ""

def credentialsSecretUsernameWarnings (secret : Secret) : List String :=
  if credentialsSecretHasUsername secret.data then []
  else ["credentials Secret " ++ quote secret.name ++ " has no username key " ++
    "(expected one of username, user, or mqAdminUser); mqweb login will default to \"admin\" — " ++
    "set an explicit username for production"]

def insecureTLSWithoutOptInMsg : String :=
  "tls.insecureSkipVerify requires annotation " ++ allowInsecureTLSAnnotation ++
    "=\"true\" (dev/local only; do not use in production)"

def validateTLS (annotations : StringMap) (tls : TLSConfig) : List FieldError :=
  (if tls.insecureSkipVerify && !allowInsecureTLS annotations then
      [.invalidAt (fieldPath ["spec", "tls", "insecureSkipVerify"]) "true" insecureTLSWithoutOptInMsg]
    else []) ++
  (if tls.caSecretRef.getD "" ≠ "" then
      validateSecretExists reader namespaceName (tls.caSecretRef.getD "") (fieldPath ["spec", "tls", "caSecretRef", "name"])
    else [])

/-- The checks for the credentials Secret that the connection will read. -/
def validateQueueManagerConnectionSpec (annotations : StringMap) (credentials : String)
    (tls : Option TLSConfig) : List String × List FieldError :=
  let (secretErrs, credSecret) :=
    if credentials ≠ "" then
      getSecretOrErrors reader namespaceName credentials (fieldPath ["spec", "credentialsSecretRef", "name"])
    else ([], none)
  (credSecret.elim [] credentialsSecretUsernameWarnings,
    secretErrs ++ tls.elim [] (validateTLS reader namespaceName annotations))

def clientCertPath : String := fieldPath ["spec", "authentication", "clientCert", "secretRef", "name"]

def validateClientCertSecret (name : String) : List FieldError :=
  match getSecretOrErrors reader namespaceName name clientCertPath with
  | (errs, none) => errs
  | (errs, some secret) =>
    if errs ≠ [] then errs
    else ["tls.crt", "tls.key"].filterMap fun key =>
      if secret.data.get key = "" then
        some (.invalidAt clientCertPath name ("client certificate Secret " ++ quote name ++ " must contain a non-empty " ++
          quote key ++ " (a kubernetes.io/tls-shaped Secret)"))
      else none

def clientCertSecret (spec : QueueManagerConnectionSpec) : Option String :=
  spec.authentication.bind fun auth => if auth.mode = .clientCert then auth.clientCert else none

/-- The Secret with user name and password that the connection reads otherwise. -/
def credentialsSecret (spec : QueueManagerConnectionSpec) : String :=
  let fallback := spec.credentialsSecretRef.getD ""
  match spec.authentication with
  | none => fallback
  | some auth =>
    match auth.mode with
    | .basic => auth.basic.getD fallback
    | .ltpa => auth.ltpa.getD fallback
    | .clientCert => fallback

def validateQueueManagerConnectionSpecV1Beta1 (annotations : StringMap) (spec : QueueManagerConnectionSpec) :
    List String × List FieldError :=
  match clientCertSecret spec with
  | some name => ([], validateClientCertSecret reader namespaceName name)
  | none => validateQueueManagerConnectionSpec reader namespaceName annotations (credentialsSecret spec) spec.tls

/-- The Secret of a client certificate is there with both of its keys. In the other modes the Secrets that are named are
there, whatever they hold, and skipping verification is opted in to. -/
def SecretsPresent (annotations : StringMap) (spec : QueueManagerConnectionSpec) : Prop :=
  match clientCertSecret spec with
  | some name => ∃ secret, reader.secret namespaceName name = .found secret ∧
      secret.data.get "tls.crt" ≠ "" ∧ secret.data.get "tls.key" ≠ ""
  | none =>
    (credentialsSecret spec ≠ "" → ∃ secret, reader.secret namespaceName (credentialsSecret spec) = .found secret) ∧
      ∀ tls, spec.tls = some tls → (tls.insecureSkipVerify = true → allowInsecureTLS annotations = true) ∧
        (tls.caSecretRef.getD "" ≠ "" → ∃ secret, reader.secret namespaceName (tls.caSecretRef.getD "") = .found secret)

theorem validateClientCertSecret_eq_nil_iff (name : String) :
    validateClientCertSecret reader namespaceName name = [] ↔
      ∃ secret, reader.secret namespaceName name = .found secret ∧
        secret.data.get "tls.crt" ≠ "" ∧ secret.data.get "tls.key" ≠ "" := by
  unfold validateClientCertSecret getSecretOrErrors
  cases reader.secret namespaceName name with
  | notFound e => simp
  | failed e => simp
  | found secret =>
    by_cases cert : secret.data.get "tls.crt" = "" <;> by_cases key : secret.data.get "tls.key" = "" <;> simp [cert, key]

theorem validateTLS_eq_nil_iff (annotations : StringMap) (tls : TLSConfig) :
    validateTLS reader namespaceName annotations tls = [] ↔
      (tls.insecureSkipVerify = true → allowInsecureTLS annotations = true) ∧
        (tls.caSecretRef.getD "" ≠ "" →
          ∃ secret, reader.secret namespaceName (tls.caSecretRef.getD "") = .found secret) := by
  unfold validateTLS
  rw [List.append_eq_nil_iff]
  refine and_congr ?_ ?_
  · cases tls.insecureSkipVerify <;> cases allowInsecureTLS annotations <;> simp
  · by_cases named : tls.caSecretRef.getD "" = ""
    · simp [named]
    · rw [if_pos named, validateSecretExists_eq_nil_iff]
      exact ⟨fun found _ => found, fun found => found named⟩

theorem validateQueueManagerConnectionSpecV1Beta1_eq_nil_iff (annotations : StringMap)
    (spec : QueueManagerConnectionSpec) :
    (validateQueueManagerConnectionSpecV1Beta1 reader namespaceName annotations spec).2 = [] ↔
      SecretsPresent reader namespaceName annotations spec := by
  unfold validateQueueManagerConnectionSpecV1Beta1 SecretsPresent
  cases clientCertSecret spec with
  | some name => exact validateClientCertSecret_eq_nil_iff reader namespaceName name
  | none =>
    have tlsChecked : spec.tls.elim [] (validateTLS reader namespaceName annotations) = [] ↔
        ∀ tls, spec.tls = some tls → validateTLS reader namespaceName annotations tls = [] := by
      cases spec.tls <;> simp
    simp only [validateQueueManagerConnectionSpec, List.append_eq_nil_iff, tlsChecked, validateTLS_eq_nil_iff]
    refine and_congr_left fun _ => ?_
    by_cases named : credentialsSecret spec = ""
    · simp [named]
    · rw [if_pos named]
      exact (validateSecretExists_eq_nil_iff reader namespaceName _ _).trans
        ⟨fun found _ => found, fun found => found named⟩

end Connections

end MKurator.Validation
