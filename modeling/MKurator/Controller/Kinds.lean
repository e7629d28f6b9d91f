import MKurator.Controller.Ensure

/-! The five workload reconcilers: how each spec becomes an MQ object, and what each one says about it. -/

namespace MKurator.Controller
open MKurator.Api MKurator.MqAdmin MKurator.MqRest MKurator.Lib MKurator.Lib.Strings

section Specs

variable [UnicodeTables]

/-- `attrs[NormalizeAttrKey(key)] = value` -/
def setAttr (key value : String) (attrs : StringMap) : StringMap := attrs.insert (normalizeAttrKey key) value

def setText (key value : String) (attrs : StringMap) : StringMap :=
  if value ≠ "" then setAttr key value attrs else attrs

def setOption {α : Type} (key : String) (text : α → String) (value : Option α) (attrs : StringMap) : StringMap :=
  match value with
  | some v => setAttr key (text v) attrs
  | none => attrs

def normalizedAttributes (attributes : StringMap) : StringMap :=
  attributes.entries.foldl (fun attrs ⟨k, v⟩ => setAttr k v attrs) ∅

def toMQQueueSpec (q : Api.QueueSpec) : MqAdmin.QueueSpec where
  name := q.queueName
  type := q.type
  attributes := normalizedAttributes q.attributes
    |> setOption "maxdepth" toString q.maxDepth
    |> setText "descr" q.description
    |> setOption "defpsist" DefaultPersistence.text q.defPersistence
    |> setOption "get" AccessEnabled.text q.get
    |> setOption "put" AccessEnabled.text q.put
    |> setText "targq" q.targetQueue
    |> setText "xmitq" q.xmitQueue
    |> setText "rqmname" q.remoteQueueManager

def toMQTopicSpec (topic : Api.TopicSpec) : MqAdmin.TopicSpec where
  name := topic.topicName
  attributes := normalizedAttributes topic.attributes
    |> setText "topstr" topic.topicString
    |> setText "descr" topic.description
    |> setOption "pub" AccessEnabled.text topic.publish
    |> setOption "sub" AccessEnabled.text topic.subscribe
    |> setOption "defpsist" DefaultPersistence.text topic.defPersistence
    |> setText "pubscope" topic.publishScope
    |> setText "subscope" topic.subscribeScope

def toMQChannelSpec (channel : Api.ChannelSpec) : MqAdmin.ChannelSpec where
  name := channel.channelName
  type := normalizeChannelType channel.type
  attributes := normalizedAttributes channel.attributes
    |> setText "descr" channel.description
    |> setOption "maxmsgl" toString channel.maxMsgLength
    |> setOption "trptype" ChannelTransportType.text channel.transportType
    |> setOption "sharecnv" toString channel.shareConv
    |> setText "mcauser" channel.mcaUser
    |> setOption "maxinst" toString channel.maxInstances
    |> setOption "maxinstc" toString channel.maxInstancesClient
    |> setText "sslciph" channel.sslCipherSpec
    |> setOption "sslcauth" ChannelSslClientAuth.text channel.sslClientAuth
    |> setText "conname" channel.connName
    |> setText "xmitq" channel.xmitQueue

end Specs

def toMQChannelAuthSpec (rule : ChannelAuthRuleSpec) : ChannelAuthSpec where
  channelName := rule.channelName
  ruleType := rule.ruleType
  address := rule.address
  userList := rule.userList
  clientUser := rule.clientUser
  sslPeerName := rule.sslPeerName
  remoteQueueManager := rule.remoteQueueManager
  mcaUser := rule.mcaUser
  userSource := (rule.userSource.map ChannelAuthUserSource.text).getD ""
  checkClient := (rule.checkClient.map ChannelAuthCheckClient.text).getD ""
  description := rule.description

def toMQAuthoritySpec (auth : AuthorityRecordSpec) : AuthoritySpec where
  profile := auth.profile
  objectType := auth.objectType
  principal := auth.principal
  group := auth.group
  authorities := auth.authorities

/-- A queue is named within its qualifier: a DISPLAY of one qualifier does not see the others. -/
def queueIdent (spec : MqAdmin.QueueSpec) : String × String := (queueQualifier spec.type, spec.name)

def channelIdent (spec : MqAdmin.ChannelSpec) : ChannelType × String := (spec.type, spec.name)

/-- The address list of a BLOCKADDR rule is its content, not its name. -/
def channelAuthIdent (spec : ChannelAuthSpec) : String × Option ChannelAuthRuleType × List String :=
  (spec.channelName, spec.ruleType,
    if spec.ruleType = some .blockAddr then [] else channelAuthIdentityClauses spec)

def authorityIdent (spec : AuthoritySpec) : String × Option AuthorityObjectType × String × String :=
  (spec.profile, spec.objectType, spec.principal, spec.group)

section Kinds

variable [UnicodeTables]

/-- Local queues ask the queue manager which further attributes it can display; the other types have fixed keys. -/
def resolveQueueDriftCheckKeys {σ τ : Type} (admin : Admin MqAdmin.QueueSpec τ) (spec : MqAdmin.QueueSpec) :
    Traced (Call σ MqAdmin.QueueSpec) (Except MqError (List String)) :=
  if normalizeQueueType spec.type ≠ .localQueue then pure (.ok (queueDisplayParameters spec.type))
  else .call .localDriftKeys admin.localDriftKeys

def ensureQueue : Admin MqAdmin.QueueSpec QueueState → Workload Api.QueueSpec → MqAdmin.QueueSpec →
    Traced (Call Api.QueueSpec MqAdmin.QueueSpec) EnsureResult :=
  ensureAttributes MqAdmin.QueueSpec.attributes QueueState.attributes (fun spec => "queue " ++ quote spec.name)
    resolveQueueDriftCheckKeys

def ensureTopic : Admin MqAdmin.TopicSpec TopicState → Workload Api.TopicSpec → MqAdmin.TopicSpec →
    Traced (Call Api.TopicSpec MqAdmin.TopicSpec) EnsureResult :=
  ensureAttributes MqAdmin.TopicSpec.attributes TopicState.attributes (fun spec => "topic " ++ quote spec.name)
    (staticKeys fun _ => topicDisplayParameters)

def ensureChannel : Admin MqAdmin.ChannelSpec ChannelState → Workload Api.ChannelSpec → MqAdmin.ChannelSpec →
    Traced (Call Api.ChannelSpec MqAdmin.ChannelSpec) EnsureResult :=
  ensureAttributes MqAdmin.ChannelSpec.attributes ChannelState.attributes (fun spec => "channel " ++ quote spec.name)
    (staticKeys fun spec => channelDisplayParametersForType spec.type)

def ensureChannelAuth : Admin ChannelAuthSpec ChannelAuthState → Workload ChannelAuthRuleSpec → ChannelAuthSpec →
    Traced (Call ChannelAuthRuleSpec ChannelAuthSpec) EnsureResult :=
  ensureAuthObject channelAuthNeedsUpdate (fun spec => "CHLAUTH rule for channel " ++ quote spec.channelName)
    "CHLAUTH on IBM MQ differs from spec" ChannelAuthSpec.channelName (fun _ => "CHLAUTH rule")

def ensureAuthority : Admin AuthoritySpec AuthorityState → Workload AuthorityRecordSpec → AuthoritySpec →
    Traced (Call AuthorityRecordSpec AuthoritySpec) EnsureResult :=
  ensureAuthObject authorityNeedsUpdate (fun spec => "authority record for profile " ++ quote spec.profile)
    "AUTHREC on IBM MQ differs from spec" AuthoritySpec.profile (fun _ => "authority record")

def queueBase : KindBase where
  Spec := Api.QueueSpec
  MQSpec := MqAdmin.QueueSpec
  State := QueueState
  Ident := String × String
  kindName := "Queue"
  finalizer := queueFinalizer
  orphanedMessage := "Queue orphaned in IBM MQ"
  deletingMessage := "Deleting queue from IBM MQ"
  deletedMessage := "Queue removed from IBM MQ"
  syncedMessage := "Queue matches spec"
  toMQ := toMQQueueSpec
  ident := queueIdent
  unsupported _ := none
  format := formatDefineQueueMQSC
  driftKeys admin spec := (resolveQueueDriftCheckKeys (σ := Api.QueueSpec) admin spec).value
  differs keys spec state := attributesNeedUpdate spec.attributes state.attributes keys
  objectLabel spec := "queue " ++ quote spec.name
  mismatchMessage keys spec state := attributeMismatchMessage spec.attributes ((state.map QueueState.attributes).getD ∅)
    keys ("queue " ++ quote spec.name)
  observeOnlyFirst := true

def queueReconciler : Kind where
  toKindBase := queueBase
  ensure := ensureQueue
  ensure_congr admin obj obj' spec observeOnly policy first :=
    ensureAttributes_congr admin obj obj' spec observeOnly policy first _ _ _ _
  ensure_cases := by
    refine ensureAttributes_cases queueBase MqAdmin.QueueSpec.attributes QueueState.attributes
      resolveQueueDriftCheckKeys rfl ?_ (fun _ _ => rfl) (fun _ _ _ => rfl) (fun _ _ _ => rfl)
    intro admin spec call member
    unfold resolveQueueDriftCheckKeys at member
    split at member
    · cases member
    · rw [List.mem_singleton.mp member]
      rfl

def topicBase : KindBase where
  Spec := Api.TopicSpec
  MQSpec := MqAdmin.TopicSpec
  State := TopicState
  Ident := String
  kindName := "Topic"
  finalizer := topicFinalizer
  orphanedMessage := "Topic orphaned in IBM MQ"
  deletingMessage := "Deleting topic from IBM MQ"
  deletedMessage := "Topic removed from IBM MQ"
  syncedMessage := "Topic matches spec"
  toMQ := toMQTopicSpec
  ident := MqAdmin.TopicSpec.name
  unsupported _ := none
  format := formatDefineTopicMQSC
  driftKeys _ _ := .ok topicDisplayParameters
  differs keys spec state := attributesNeedUpdate spec.attributes state.attributes keys
  objectLabel spec := "topic " ++ quote spec.name
  mismatchMessage keys spec state := attributeMismatchMessage spec.attributes ((state.map TopicState.attributes).getD ∅)
    keys ("topic " ++ quote spec.name)
  observeOnlyFirst := true

def topicReconciler : Kind where
  toKindBase := topicBase
  ensure := ensureTopic
  ensure_congr admin obj obj' spec observeOnly policy first :=
    ensureAttributes_congr admin obj obj' spec observeOnly policy first _ _ _ _
  ensure_cases := ensureAttributes_cases topicBase MqAdmin.TopicSpec.attributes TopicState.attributes
    (staticKeys fun _ => topicDisplayParameters) rfl (fun _ _ _ member => by cases member) (fun _ _ => rfl)
    (fun _ _ _ => rfl) (fun _ _ _ => rfl)

def channelBase : KindBase where
  Spec := Api.ChannelSpec
  MQSpec := MqAdmin.ChannelSpec
  State := ChannelState
  Ident := ChannelType × String
  kindName := "Channel"
  finalizer := channelFinalizer
  orphanedMessage := "Channel orphaned in IBM MQ"
  deletingMessage := "Deleting channel from IBM MQ"
  deletedMessage := "Channel removed from IBM MQ"
  syncedMessage := "Channel matches spec"
  toMQ := toMQChannelSpec
  ident := channelIdent
  unsupported spec :=
    if spec.type ≠ .unset ∧ !channelTypeSupported spec.type then
      some (.terminal .unsupportedChannelType ("channel type " ++ quote spec.type.text ++ " is not supported"))
    else none
  format := formatDefineChannelMQSC
  driftKeys _ spec := .ok (channelDisplayParametersForType spec.type)
  differs keys spec state := attributesNeedUpdate spec.attributes state.attributes keys
  objectLabel spec := "channel " ++ quote spec.name
  mismatchMessage keys spec state := attributeMismatchMessage spec.attributes
    ((state.map ChannelState.attributes).getD ∅) keys ("channel " ++ quote spec.name)
  observeOnlyFirst := true

def channelReconciler : Kind where
  toKindBase := channelBase
  ensure := ensureChannel
  ensure_congr admin obj obj' spec observeOnly policy first :=
    ensureAttributes_congr admin obj obj' spec observeOnly policy first _ _ _ _
  ensure_cases := ensureAttributes_cases channelBase MqAdmin.ChannelSpec.attributes ChannelState.attributes
    (staticKeys fun spec => channelDisplayParametersForType spec.type) rfl (fun _ _ _ member => by cases member)
    (fun _ _ => rfl) (fun _ _ _ => rfl) (fun _ _ _ => rfl)

def channelAuthRuleBase : KindBase where
  Spec := ChannelAuthRuleSpec
  MQSpec := ChannelAuthSpec
  State := ChannelAuthState
  Ident := String × Option ChannelAuthRuleType × List String
  kindName := "ChannelAuthRule"
  finalizer := channelAuthRuleFinalizer
  orphanedMessage := "CHLAUTH rule orphaned in IBM MQ"
  deletingMessage := "Deleting CHLAUTH rule from IBM MQ"
  deletedMessage := "CHLAUTH rule removed from IBM MQ"
  syncedMessage := "ChannelAuthRule matches spec"
  toMQ := toMQChannelAuthSpec
  ident := channelAuthIdent
  unsupported _ := none
  format := formatSetChannelAuthMQSC
  driftKeys _ _ := .ok []
  differs _ spec state := channelAuthNeedsUpdate spec state
  objectLabel spec := "CHLAUTH rule for channel " ++ quote spec.channelName
  mismatchMessage _ _ _ := "CHLAUTH on IBM MQ differs from spec"
  observeOnlyFirst := false

def channelAuthRuleReconciler : Kind where
  toKindBase := channelAuthRuleBase
  ensure := ensureChannelAuth
  ensure_congr admin obj obj' spec observeOnly policy first :=
    ensureAuthObject_congr admin obj obj' spec observeOnly policy first _ _ _ _ _
  ensure_cases := ensureAuthObject_cases channelAuthRuleBase channelAuthNeedsUpdate
    "CHLAUTH on IBM MQ differs from spec" ChannelAuthSpec.channelName (fun _ => "CHLAUTH rule") (fun _ _ => rfl)
    (fun _ _ _ => by simp only [channelAuthRuleBase]) (fun _ _ _ => rfl) rfl

def authorityRecordBase : KindBase where
  Spec := AuthorityRecordSpec
  MQSpec := AuthoritySpec
  State := AuthorityState
  Ident := String × Option AuthorityObjectType × String × String
  kindName := "AuthorityRecord"
  finalizer := authorityRecordFinalizer
  orphanedMessage := "Authority record orphaned in IBM MQ"
  deletingMessage := "Deleting authority record from IBM MQ"
  deletedMessage := "Authority record removed from IBM MQ"
  syncedMessage := "AuthorityRecord matches spec"
  toMQ := toMQAuthoritySpec
  ident := authorityIdent
  unsupported _ := none
  format := formatSetAuthorityMQSC
  driftKeys _ _ := .ok []
  differs _ spec state := authorityNeedsUpdate spec state
  objectLabel spec := "authority record for profile " ++ quote spec.profile
  mismatchMessage _ _ _ := "AUTHREC on IBM MQ differs from spec"
  observeOnlyFirst := false

def authorityRecordReconciler : Kind where
  toKindBase := authorityRecordBase
  ensure := ensureAuthority
  ensure_congr admin obj obj' spec observeOnly policy first :=
    ensureAuthObject_congr admin obj obj' spec observeOnly policy first _ _ _ _ _
  ensure_cases := ensureAuthObject_cases authorityRecordBase authorityNeedsUpdate
    "AUTHREC on IBM MQ differs from spec" AuthoritySpec.profile (fun _ => "authority record") (fun _ _ => rfl)
    (fun _ _ _ => rfl) (fun _ _ _ => rfl) rfl

inductive WorkloadKind where
  | queue
  | topic
  | channel
  | channelAuthRule
  | authorityRecord
  deriving DecidableEq, Repr

def reconcilerOf : WorkloadKind → Kind
  | .queue => queueReconciler
  | .topic => topicReconciler
  | .channel => channelReconciler
  | .channelAuthRule => channelAuthRuleReconciler
  | .authorityRecord => authorityRecordReconciler

end Kinds

def ordersQueue (adoptionPolicy : Option AdoptionPolicy) : Workload Api.QueueSpec where
  metadata :=
    { name := "orders"
      ns := "apps"
      generation := 1
      deletionTimestamp := none
      finalizers := [queueFinalizer]
      annotations := ∅ }
  spec :=
    { connectionRef := "qm1"
      suspend := false
      policies := ⟨none, adoptionPolicy⟩
      queueName := "ORDERS"
      type := .localQueue
      attributes := ∅
      maxDepth := none
      description := ""
      defPersistence := none
      get := none
      put := none
      targetQueue := ""
      xmitQueue := ""
      remoteQueueManager := "" }
  status :=
    { conditions := []
      observedGeneration := 0
      desiredMQSC := ""
      message := ""
      lastSyncTime := none
      mqObjectExists := none }

end MKurator.Controller
