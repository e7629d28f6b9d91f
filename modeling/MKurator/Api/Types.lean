import Mathlib.Data.List.AList

/-! The `messaging.mkurator.dev/v1beta1` resources, with the object metadata and conditions the operator reads and writes. -/

namespace MKurator.Api

/-- A Go `map[string]string`; the list order is the order in which `range` happens to visit it. -/
abbrev StringMap := AList fun _ : String => String

/-- `m[key]`, which is the empty string for a missing key. -/
def StringMap.get (m : StringMap) (key : String) : String := (m.lookup key).getD ""

structure ObjectMeta where
  name : String
  ns : String
  generation : Nat
  deletionTimestamp : Option Nat
  finalizers : List String
  annotations : StringMap

inductive ConditionStatus where
  | conditionTrue
  | conditionFalse
  | conditionUnknown
  deriving DecidableEq, Repr

structure Condition where
  type : String
  status : ConditionStatus
  reason : String
  message : String
  observedGeneration : Nat
  lastTransitionTime : Nat
  deriving DecidableEq, Repr

def conditionReady : String := "Ready"
def conditionSynced : String := "Synced"

def reasonAvailable : String := "Available"
def reasonProgressing : String := "Progressing"
def reasonError : String := "Error"
def reasonTerminalError : String := "TerminalError"
def reasonDeleting : String := "Deleting"
def reasonDriftDetected : String := "DriftDetected"
def reasonOrphaned : String := "Orphaned"
def reasonAdoptionConflict : String := "AdoptionConflict"
def reasonAlreadyExists : String := "AlreadyExists"
def reasonSuspended : String := "Suspended"

def reconcileRequestedAtAnnotation : String := "messaging.mkurator.dev/reconcile-requested-at"
def forceOrphanAnnotation : String := "messaging.mkurator.dev/force-orphan"
def driftPolicyAnnotation : String := "messaging.mkurator.dev/drift-policy"
def driftPolicyObserveOnly : String := "observe-only"
def allowInsecureTLSAnnotation : String := "messaging.mkurator.dev/allow-insecure-tls"

def queueManagerConnectionFinalizer : String := "messaging.mkurator.dev/connection"
def queueFinalizer : String := "messaging.mkurator.dev/queue"
def topicFinalizer : String := "messaging.mkurator.dev/topic"
def channelFinalizer : String := "messaging.mkurator.dev/channel"
def channelAuthRuleFinalizer : String := "messaging.mkurator.dev/channelauthrule"
def authorityRecordFinalizer : String := "messaging.mkurator.dev/authorityrecord"

inductive DeletionPolicy where
  | delete
  | orphan
  deriving DecidableEq, Repr

inductive AdoptionPolicy where
  | adopt
  | adoptIfMatching
  | failIfExists
  deriving DecidableEq, Repr

/-- An unset policy is `none`. -/
structure WorkloadLifecyclePolicies where
  deletionPolicy : Option DeletionPolicy
  adoptionPolicy : Option AdoptionPolicy
  deriving DecidableEq, Repr

structure WorkloadStatus where
  conditions : List Condition
  observedGeneration : Nat
  desiredMQSC : String
  message : String
  lastSyncTime : Option Nat
  mqObjectExists : Option Bool
  deriving DecidableEq, Repr

structure Workload (σ : Type) where
  metadata : ObjectMeta
  spec : σ
  status : WorkloadStatus

/-- `other` is a text that the CRD's enumeration does not admit. -/
inductive QueueType where
  | unset
  | localQueue
  | aliasQueue
  | remoteQueue
  | other (text : String)
  deriving DecidableEq, Repr

def QueueType.text : QueueType → String
  | .unset => ""
  | .localQueue => "local"
  | .aliasQueue => "alias"
  | .remoteQueue => "remote"
  | .other text => text

inductive ChannelType where
  | unset
  | svrconn
  | sdr
  | rcvr
  | other (text : String)
  deriving DecidableEq, Repr

def ChannelType.text : ChannelType → String
  | .unset => ""
  | .svrconn => "svrconn"
  | .sdr => "sdr"
  | .rcvr => "rcvr"
  | .other text => text

inductive DefaultPersistence where
  | yes
  | no
  deriving DecidableEq, Repr

def DefaultPersistence.text : DefaultPersistence → String
  | .yes => "yes"
  | .no => "no"

/-- `QueueAccessEnabled` and `TopicAccessEnabled` -/
inductive AccessEnabled where
  | enabled
  | disabled
  deriving DecidableEq, Repr

def AccessEnabled.text : AccessEnabled → String
  | .enabled => "enabled"
  | .disabled => "disabled"

inductive ChannelTransportType where
  | tcp
  | lu62
  deriving DecidableEq, Repr

def ChannelTransportType.text : ChannelTransportType → String
  | .tcp => "tcp"
  | .lu62 => "lu62"

inductive ChannelSslClientAuth where
  | required
  | optional
  | asqmgr
  deriving DecidableEq, Repr

def ChannelSslClientAuth.text : ChannelSslClientAuth → String
  | .required => "required"
  | .optional => "optional"
  | .asqmgr => "asqmgr"

inductive ChannelAuthRuleType where
  | addressMap
  | blockUser
  | userMap
  | sslPeerMap
  | qmgrMap
  | blockAddr
  deriving DecidableEq, Repr

def ChannelAuthRuleType.text : ChannelAuthRuleType → String
  | .addressMap => "ADDRESSMAP"
  | .blockUser => "BLOCKUSER"
  | .userMap => "USERMAP"
  | .sslPeerMap => "SSLPEERMAP"
  | .qmgrMap => "QMGRMAP"
  | .blockAddr => "BLOCKADDR"

inductive ChannelAuthUserSource where
  | channel
  | noAccess
  | map
  deriving DecidableEq, Repr

def ChannelAuthUserSource.text : ChannelAuthUserSource → String
  | .channel => "CHANNEL"
  | .noAccess => "NOACCESS"
  | .map => "MAP"

inductive ChannelAuthCheckClient where
  | required
  | asqmgr
  | reqdadm
  | aschl
  | optional
  deriving DecidableEq, Repr

def ChannelAuthCheckClient.text : ChannelAuthCheckClient → String
  | .required => "REQUIRED"
  | .asqmgr => "ASQMGR"
  | .reqdadm => "REQDADM"
  | .aschl => "ASCHL"
  | .optional => "OPTIONAL"

inductive AuthorityObjectType where
  | queue
  | channel
  | topic
  | qmgr
  | namespac
  | process
  | nlist
  deriving DecidableEq, Repr

def AuthorityObjectType.text : AuthorityObjectType → String
  | .queue => "QUEUE"
  | .channel => "CHANNEL"
  | .topic => "TOPIC"
  | .qmgr => "QMGR"
  | .namespac => "NAMESPAC"
  | .process => "PROCESS"
  | .nlist => "NLIST"

/-- The part that all five workload specs have in common; `connectionRef` is the referenced name. -/
structure SharedSpec where
  connectionRef : String
  suspend : Bool
  policies : WorkloadLifecyclePolicies
  deriving DecidableEq, Repr

structure QueueSpec extends SharedSpec where
  queueName : String
  type : QueueType
  attributes : StringMap
  maxDepth : Option Int
  description : String
  defPersistence : Option DefaultPersistence
  get : Option AccessEnabled
  put : Option AccessEnabled
  targetQueue : String
  xmitQueue : String
  remoteQueueManager : String

structure TopicSpec extends SharedSpec where
  topicName : String
  attributes : StringMap
  topicString : String
  description : String
  publish : Option AccessEnabled
  subscribe : Option AccessEnabled
  defPersistence : Option DefaultPersistence
  publishScope : String
  subscribeScope : String

structure ChannelSpec extends SharedSpec where
  channelName : String
  type : ChannelType
  attributes : StringMap
  description : String
  maxMsgLength : Option Int
  transportType : Option ChannelTransportType
  shareConv : Option Int
  mcaUser : String
  maxInstances : Option Int
  maxInstancesClient : Option Int
  sslCipherSpec : String
  sslClientAuth : Option ChannelSslClientAuth
  connName : String
  xmitQueue : String

structure ChannelAuthRuleSpec extends SharedSpec where
  channelName : String
  ruleType : Option ChannelAuthRuleType
  address : String
  userList : String
  clientUser : String
  sslPeerName : String
  remoteQueueManager : String
  mcaUser : String
  userSource : Option ChannelAuthUserSource
  checkClient : Option ChannelAuthCheckClient
  description : String

structure AuthorityRecordSpec extends SharedSpec where
  profile : String
  objectType : Option AuthorityObjectType
  principal : String
  group : String
  authorities : List String

inductive MQWebAuthenticationMode where
  | basic
  | ltpa
  | clientCert
  deriving DecidableEq, Repr

/-- Each member is the name of its Secret. -/
structure MQWebAuthentication where
  mode : MQWebAuthenticationMode
  basic : Option String
  ltpa : Option String
  clientCert : Option String
  deriving DecidableEq, Repr

structure TLSConfig where
  insecureSkipVerify : Bool
  caSecretRef : Option String
  deriving DecidableEq, Repr

structure QueueManagerConnectionSpec where
  queueManager : String
  endpoint : String
  restPrefix : String
  tls : Option TLSConfig
  credentialsSecretRef : Option String
  authentication : Option MQWebAuthentication
  deriving DecidableEq, Repr

structure QueueManagerConnection where
  metadata : ObjectMeta
  spec : QueueManagerConnectionSpec
  conditions : List Condition
  observedGeneration : Nat

end MKurator.Api
