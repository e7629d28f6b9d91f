import MKurator.Validation.Specs
import MKurator.Controller.BreakGlass

/-! The validating webhooks of the six kinds, and which teardowns they let through: the update with which a deleting
resource gives up its finalizer is an update like any other. -/

namespace MKurator.Webhook
open MKurator.Api MKurator.MqAdmin MKurator.Lib.Strings MKurator.Validation MKurator.Controller

/-- `apierrors.NewInvalid`: the kind, the name and the field errors that make up the message. -/
structure InvalidError where
  kind : String
  name : String
  errs : List FieldError

structure AdmissionResult where
  warnings : List String
  err : Option InvalidError

def admissionResult (kind name : String) (checked : List String × List FieldError) : AdmissionResult where
  warnings := checked.1
  err := if 0 < checked.2.length then some ⟨kind, name, checked.2⟩ else none

@[simp] theorem admissionResult_err_eq_none_iff (kind name : String) (checked : List String × List FieldError) :
    (admissionResult kind name checked).err = none ↔ checked.2 = [] := by
  unfold admissionResult
  by_cases empty : checked.2 = []
  · simp [empty]
  · simp [empty, List.length_pos_iff.mpr empty]

inductive Resource where
  | queue (obj : Workload Api.QueueSpec)
  | topic (obj : Workload Api.TopicSpec)
  | channel (obj : Workload Api.ChannelSpec)
  | channelAuthRule (obj : Workload ChannelAuthRuleSpec)
  | authorityRecord (obj : Workload AuthorityRecordSpec)
  | connection (conn : QueueManagerConnection)

namespace Resource

def metadata : Resource → ObjectMeta
  | .queue obj => obj.metadata
  | .topic obj => obj.metadata
  | .channel obj => obj.metadata
  | .channelAuthRule obj => obj.metadata
  | .authorityRecord obj => obj.metadata
  | .connection conn => conn.metadata

/-- The update that a reconcile of a deleting resource ends with. -/
def withoutFinalizer : Resource → Resource
  | .queue obj => .queue (removeFinalizer obj queueFinalizer)
  | .topic obj => .topic (removeFinalizer obj topicFinalizer)
  | .channel obj => .channel (removeFinalizer obj channelFinalizer)
  | .channelAuthRule obj => .channelAuthRule (removeFinalizer obj channelAuthRuleFinalizer)
  | .authorityRecord obj => .authorityRecord (removeFinalizer obj authorityRecordFinalizer)
  | .connection conn => .connection { conn with metadata :=
      { conn.metadata with finalizers := conn.metadata.finalizers.filter (· ≠ queueManagerConnectionFinalizer) } }

end Resource

section Validators

variable [UnicodeTables] (reader : Reader)

def validateQueue (obj : Workload Api.QueueSpec) : List String × List FieldError :=
  validateQueueSpecV1Beta1 reader obj.metadata.ns obj.spec

def validateTopic (obj : Workload Api.TopicSpec) : List String × List FieldError :=
  validateTopicSpecV1Beta1 reader obj.metadata.ns obj.spec

def validateChannel (obj : Workload Api.ChannelSpec) : List String × List FieldError :=
  validateChannelSpecV1Beta1 reader obj.metadata.ns obj.spec

def validateRule (obj : Workload ChannelAuthRuleSpec) : List String × List FieldError :=
  ([], validateChannelAuthRuleSpecV1Beta1 reader obj.metadata.ns obj.spec)

def validateRecord (obj : Workload AuthorityRecordSpec) : List String × List FieldError :=
  ([], validateAuthorityRecordSpecV1Beta1 reader obj.metadata.ns obj.spec)

/-- A rejected connection comes without its warnings. -/
def validateConnection (conn : QueueManagerConnection) : AdmissionResult :=
  let checked := validateQueueManagerConnectionSpecV1Beta1 reader conn.metadata.ns conn.metadata.annotations conn.spec
  if 0 < checked.2.length then ⟨[], some ⟨"QueueManagerConnection", conn.metadata.name, checked.2⟩⟩
  else ⟨checked.1, none⟩

/-- `ValidateUpdate` of each kind. None looks at the old version, and only the two auth kinds let the updates of a
deleting resource through unseen. -/
def validateUpdate (_old : Resource) : Resource → AdmissionResult
  | .queue new => admissionResult "Queue" new.metadata.name (validateQueue reader new)
  | .topic new => admissionResult "Topic" new.metadata.name (validateTopic reader new)
  | .channel new => admissionResult "Channel" new.metadata.name (validateChannel reader new)
  | .channelAuthRule new =>
    if new.metadata.deletionTimestamp.isSome then ⟨[], none⟩
    else admissionResult "ChannelAuthRule" new.metadata.name (validateRule reader new)
  | .authorityRecord new =>
    if new.metadata.deletionTimestamp.isSome then ⟨[], none⟩
    else admissionResult "AuthorityRecord" new.metadata.name (validateRecord reader new)
  | .connection new => validateConnection reader new

theorem validateConnection_err_eq_none_iff (conn : QueueManagerConnection) :
    (validateConnection reader conn).err = none ↔
      (validateQueueManagerConnectionSpecV1Beta1 reader conn.metadata.ns conn.metadata.annotations conn.spec).2 = [] := by
  unfold validateConnection
  by_cases empty :
      (validateQueueManagerConnectionSpecV1Beta1 reader conn.metadata.ns conn.metadata.annotations conn.spec).2 = []
  · simp [empty]
  · simp [empty, List.length_pos_iff.mpr empty]

/-- The state of the cluster in which a deleting resource can give up its finalizer. -/
def TeardownAdmitted : Resource → Prop
  | .queue obj => ConnectionUsable reader obj.metadata.ns obj.spec.connectionRef
  | .topic obj => ConnectionUsable reader obj.metadata.ns obj.spec.connectionRef
  | .channel obj => ConnectionUsable reader obj.metadata.ns obj.spec.connectionRef ∧ SenderComplete obj.spec
  | .channelAuthRule _ | .authorityRecord _ => True
  | .connection conn => SecretsPresent reader conn.metadata.ns conn.metadata.annotations conn.spec

/-- The update that only removes the finalizer of a deleting resource is admitted exactly in those states. -/
theorem finalizer_removal_admitted_iff (resource : Resource)
    (deleting : resource.metadata.deletionTimestamp.isSome = true) :
    (validateUpdate reader resource resource.withoutFinalizer).err = none ↔ TeardownAdmitted reader resource := by
  cases resource with
  | queue obj =>
    simp only [validateUpdate, Resource.withoutFinalizer, admissionResult_err_eq_none_iff]
    exact validateConnectionRef_eq_nil_iff reader _ _ _
  | topic obj =>
    simp only [validateUpdate, Resource.withoutFinalizer, admissionResult_err_eq_none_iff]
    exact validateConnectionRef_eq_nil_iff reader _ _ _
  | channel obj =>
    simp only [validateUpdate, Resource.withoutFinalizer, admissionResult_err_eq_none_iff]
    exact validateChannelSpecV1Beta1_eq_nil_iff reader _ obj.spec
  | channelAuthRule obj => simp [validateUpdate, Resource.withoutFinalizer, removeFinalizer, TeardownAdmitted,
      show obj.metadata.deletionTimestamp.isSome = true from deleting]
  | authorityRecord obj => simp [validateUpdate, Resource.withoutFinalizer, removeFinalizer, TeardownAdmitted,
      show obj.metadata.deletionTimestamp.isSome = true from deleting]
  | connection conn =>
    simp only [validateUpdate, Resource.withoutFinalizer, validateConnection_err_eq_none_iff]
    exact validateQueueManagerConnectionSpecV1Beta1_eq_nil_iff reader _ _ conn.spec

end Validators

section Cases

attribute [local instance] asciiTables

def emptyNamespace : Reader where
  connection _ name := .notFound (.plain name)
  secret _ name := .notFound (.plain name)
  channels _ _ := .items []

def deletingConnection : QueueManagerConnection :=
  { readyConnection "qm1" with metadata :=
      { (readyConnection "qm1").metadata with
        deletionTimestamp := some 100
        finalizers := [queueManagerConnectionFinalizer] } }

theorem abandonedQueue_released_with_connection :
    (validateUpdate { emptyNamespace with connection := fun _ name => .found (readyConnection name) }
      (.queue (abandonedQueue false)) (Resource.queue (abandonedQueue false)).withoutFinalizer).err = none :=
  (finalizer_removal_admitted_iff _ (.queue (abandonedQueue false)) rfl).mpr ⟨by decide, _, rfl, rfl⟩

/-- With the connection gone, the webhook refuses the update that completes an orphan delete; with the Secret gone, the
one that completes the connection's own. -/
theorem teardown_blocked_in_emptyNamespace :
    (abandonedQueue false).metadata.deletionTimestamp.isSome = true ∧
      orphanDeletionRequested (abandonedQueue false) = true ∧
      (validateUpdate emptyNamespace (.queue (abandonedQueue false))
        (Resource.queue (abandonedQueue false)).withoutFinalizer).err.isSome = true ∧
      deletingConnection.metadata.deletionTimestamp.isSome = true ∧
      (validateUpdate emptyNamespace (.connection deletingConnection)
        (Resource.connection deletingConnection).withoutFinalizer).err.isSome = true :=
  ⟨rfl, by decide, rfl, rfl, rfl⟩

end Cases

end MKurator.Webhook
