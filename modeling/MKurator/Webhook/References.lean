import MKurator.Lib.References
import MKurator.Lib.System
import MKurator.Validation.Dependents
import MKurator.Webhook.Admission

/-! The API server with the webhooks in front of it: in whatever order resources are created, changed and deleted, the
connection of a resource stays until the resource is gone. -/

namespace MKurator.Webhook
open MKurator.Api MKurator.MqAdmin MKurator.Lib MKurator.Lib.Strings MKurator.Lib.References MKurator.Validation
open MKurator.Controller

inductive ResourceKind where
  | workload (k : WorkloadKind)
  | connection
  deriving DecidableEq, Repr

structure ResourceKey where
  kind : ResourceKind
  ns : String
  name : String
  deriving DecidableEq, Repr

namespace Resource

def kind : Resource → ResourceKind
  | .queue _ => .workload .queue
  | .topic _ => .workload .topic
  | .channel _ => .workload .channel
  | .channelAuthRule _ => .workload .channelAuthRule
  | .authorityRecord _ => .workload .authorityRecord
  | .connection _ => .connection

def key (r : Resource) : ResourceKey := ⟨r.kind, r.metadata.ns, r.metadata.name⟩

def connectionRef : Resource → Option String
  | .queue obj => some obj.spec.connectionRef
  | .topic obj => some obj.spec.connectionRef
  | .channel obj => some obj.spec.connectionRef
  | .channelAuthRule obj => some obj.spec.connectionRef
  | .authorityRecord obj => some obj.spec.connectionRef
  | .connection _ => none

def deleting (r : Resource) : Bool := r.metadata.deletionTimestamp.isSome

/-- The two kinds whose updates nobody looks at while they are deleting. -/
def unchecked : Resource → Bool
  | .channelAuthRule obj => obj.metadata.deletionTimestamp.isSome
  | .authorityRecord obj => obj.metadata.deletionTimestamp.isSome
  | _ => false

def mapMetadata (change : ObjectMeta → ObjectMeta) : Resource → Resource
  | .queue obj => .queue { obj with metadata := change obj.metadata }
  | .topic obj => .topic { obj with metadata := change obj.metadata }
  | .channel obj => .channel { obj with metadata := change obj.metadata }
  | .channelAuthRule obj => .channelAuthRule { obj with metadata := change obj.metadata }
  | .authorityRecord obj => .authorityRecord { obj with metadata := change obj.metadata }
  | .connection conn => .connection { conn with metadata := change conn.metadata }

/-- A deletion that was asked for earlier keeps its time. -/
def deletedAt (time : Nat) : Resource → Resource :=
  mapMetadata fun m => { m with deletionTimestamp := some (m.deletionTimestamp.getD time) }

/-- The status subresource takes the status of what is sent, and nothing else. -/
def takeStatus : Resource → Resource → Resource
  | .queue old, .queue sent => .queue { old with status := sent.status }
  | .topic old, .topic sent => .topic { old with status := sent.status }
  | .channel old, .channel sent => .channel { old with status := sent.status }
  | .channelAuthRule old, .channelAuthRule sent => .channelAuthRule { old with status := sent.status }
  | .authorityRecord old, .authorityRecord sent => .authorityRecord { old with status := sent.status }
  | .connection old, .connection sent =>
    .connection { old with conditions := sent.conditions, observedGeneration := sent.observedGeneration }
  | old, _ => old

/-- What the webhooks keep of a resource: the connection that it refers to. -/
def refers (r : Resource) : Option ResourceKey :=
  if r.unchecked then none else r.connectionRef.map fun name => ⟨.connection, r.metadata.ns, name⟩

def Alive (r : Resource) : Prop := r.metadata.deletionTimestamp = none

theorem refers_eq_some {r : Resource} {target : ResourceKey} (reference : r.refers = some target) :
    r.unchecked = false ∧ ∃ name, r.connectionRef = some name ∧ target = ⟨.connection, r.metadata.ns, name⟩ := by
  unfold refers at reference
  split at reference
  next => cases reference
  next checked =>
    obtain ⟨name, named, same⟩ := Option.map_eq_some_iff.mp reference
    exact ⟨Bool.not_eq_true _ ▸ checked, name, named, same.symm⟩

theorem target_ne_key {r : Resource} {target : ResourceKey} (reference : r.refers = some target) : target ≠ r.key := by
  obtain ⟨-, name, named, rfl⟩ := refers_eq_some reference
  intro same
  have kind : r.kind = .connection := (congrArg ResourceKey.kind same).symm
  cases r with
  | connection conn => cases named
  | _ => cases kind

theorem key_deletedAt (time : Nat) (r : Resource) : (r.deletedAt time).key = r.key := by
  cases r <;> rfl

theorem refers_of_deletedAt {time : Nat} {r : Resource} {target : ResourceKey}
    (reference : (r.deletedAt time).refers = some target) : r.refers = some target := by
  cases r with
  | queue obj => exact reference
  | topic obj => exact reference
  | channel obj => exact reference
  | connection conn => exact reference
  | channelAuthRule obj => cases reference
  | authorityRecord obj => cases reference

def channelSpec : Resource → Option Api.ChannelSpec
  | .channel obj => some obj.spec
  | _ => none

theorem channelSpec_deletedAt (r : Resource) (time : Nat) : (r.deletedAt time).channelSpec = r.channelSpec := by
  cases r <;> rfl

theorem connectionRef_deletedAt (r : Resource) (time : Nat) : (r.deletedAt time).connectionRef = r.connectionRef := by
  cases r <;> rfl

theorem unchecked_of_deletedAt {r : Resource} {time : Nat} (checked : (r.deletedAt time).unchecked = false) :
    r.unchecked = false := by
  cases r with
  | channelAuthRule obj => cases checked
  | authorityRecord obj => cases checked
  | _ => rfl

theorem takeStatus_declaration (old sent : Resource) :
    (old.takeStatus sent).key = old.key ∧ (old.takeStatus sent).metadata = old.metadata ∧
      (old.takeStatus sent).refers = old.refers ∧ (old.takeStatus sent).channelSpec = old.channelSpec ∧
      (old.takeStatus sent).unchecked = old.unchecked ∧ (old.takeStatus sent).connectionRef = old.connectionRef := by
  cases old <;> cases sent <;> exact ⟨rfl, rfl, rfl, rfl, rfl, rfl⟩

end Resource

abbrev Cluster := AList fun _ : ResourceKey => Resource

theorem unused_of_workload {cluster : Cluster} {key : ResourceKey} (other : key.kind ≠ .connection) :
    Unused Resource.refers cluster key := by
  intro source r stored reference
  obtain ⟨-, name, named, same⟩ := Resource.refers_eq_some reference
  exact other (congrArg ResourceKey.kind same)

section Server

variable [UnicodeTables]

def Resource.asWorkload : (k : WorkloadKind) → Resource → Option (Workload (reconcilerOf k).Spec)
  | .queue, .queue obj => some obj
  | .topic, .topic obj => some obj
  | .channel, .channel obj => some obj
  | .channelAuthRule, .channelAuthRule obj => some obj
  | .authorityRecord, .authorityRecord obj => some obj
  | _, _ => none

def validateCreate (reader : Reader) : Resource → AdmissionResult
  | .queue new => admissionResult "Queue" new.metadata.name (validateQueue reader new)
  | .topic new => admissionResult "Topic" new.metadata.name (validateTopic reader new)
  | .channel new => admissionResult "Channel" new.metadata.name (validateChannel reader new)
  | .channelAuthRule new => admissionResult "ChannelAuthRule" new.metadata.name (validateRule reader new)
  | .authorityRecord new => admissionResult "AuthorityRecord" new.metadata.name (validateRecord reader new)
  | .connection new => validateConnection reader new

def validateDelete (lists : String → DependentLists) : Resource → AdmissionResult
  | .connection conn =>
    let errs := validateQueueManagerConnectionDeleteV1Beta1 lists conn
    if 0 < errs.length then ⟨[], some ⟨"QueueManagerConnection", conn.metadata.name, errs⟩⟩ else ⟨[], none⟩
  | _ => ⟨[], none⟩

structure Reads where
  reader : Reader
  lists : String → DependentLists

/-- Whatever is answered is answered from the stored state, and the five kinds are registered. -/
structure Current (cluster : Cluster) (reads : Reads) : Prop where
  connection : ∀ ns name conn, reads.reader.connection ns name = .found conn →
    cluster.lookup ⟨.connection, ns, name⟩ = some (.connection conn)
  lists : ∀ ns k, (∃ e, reads.lists ns k = .failed e) ∨ ∃ items, reads.lists ns k = .items items ∧
    ∀ key r obj, cluster.lookup key = some r → r.metadata.ns = ns → r.asWorkload k = some obj → obj ∈ items

inductive ApiRequest where
  | create (r : Resource)
  | update (r : Resource)
  | updateStatus (r : Resource)
  | delete (key : ResourceKey) (time : Nat)

structure ApiCall where
  request : ApiRequest
  reads : Reads

/-- A deleting resource without finalizers is gone. -/
def Cluster.store (cluster : Cluster) (r : Resource) : Cluster :=
  if r.deleting && r.metadata.finalizers.isEmpty then cluster.erase r.key else cluster.insert r.key r

/-- The request passes what the API server checks of its own and the webhook of its kind. -/
def Cluster.valid (cluster : Cluster) (call : ApiCall) : Prop :=
  Current cluster call.reads ∧ match call.request with
    | .create r => cluster.lookup r.key = none ∧ r.Alive ∧ (validateCreate call.reads.reader r).err = none
    | .update r => ∃ old, cluster.lookup r.key = some old ∧
        r.metadata.deletionTimestamp = old.metadata.deletionTimestamp ∧
        (validateUpdate call.reads.reader old r).err = none
    | .updateStatus r => ∃ old, cluster.lookup r.key = some old
    | .delete key _ => ∃ old, cluster.lookup key = some old ∧ (validateDelete call.reads.lists old).err = none

def Cluster.next (cluster : Cluster) (call : ApiCall) : Cluster :=
  match call.request with
  | .create r | .update r => cluster.store r
  | .updateStatus r => match cluster.lookup r.key with
    | some old => cluster.store (old.takeStatus r)
    | none => cluster
  | .delete key time => match cluster.lookup key with
    | some old => cluster.store (old.deletedAt time)
    | none => cluster

def apiServer : System Cluster ApiCall := ⟨Cluster.valid, Cluster.next⟩

structure Resource.WellFormed (r : Resource) : Prop where
  named : r.unchecked = false → r.connectionRef ≠ some ""
  sender : ∀ spec ∈ r.channelSpec, SenderComplete spec

structure Sound (cluster : Cluster) : Prop where
  keyed : ∀ key r, cluster.lookup key = some r → r.key = key
  intact : Intact Resource.refers Resource.Alive cluster
  wellFormed : ∀ key r, cluster.lookup key = some r → r.WellFormed

section Checks

variable (reader : Reader)

theorem validateQueue_eq_nil_iff (obj : Workload Api.QueueSpec) :
    (validateQueue reader obj).2 = [] ↔ ConnectionUsable reader obj.metadata.ns obj.spec.connectionRef :=
  validateConnectionRef_eq_nil_iff reader _ _ _

theorem validateTopic_eq_nil_iff (obj : Workload Api.TopicSpec) :
    (validateTopic reader obj).2 = [] ↔ ConnectionUsable reader obj.metadata.ns obj.spec.connectionRef :=
  validateConnectionRef_eq_nil_iff reader _ _ _

theorem validateChannel_eq_nil_iff (obj : Workload Api.ChannelSpec) :
    (validateChannel reader obj).2 = [] ↔
      ConnectionUsable reader obj.metadata.ns obj.spec.connectionRef ∧ SenderComplete obj.spec :=
  validateChannelSpecV1Beta1_eq_nil_iff reader _ obj.spec

theorem validateRecord_eq_nil_iff (obj : Workload AuthorityRecordSpec) :
    (validateRecord reader obj).2 = [] ↔ ConnectionUsable reader obj.metadata.ns obj.spec.connectionRef :=
  validateConnectionRef_eq_nil_iff reader _ _ _

theorem usable_of_validateRule {obj : Workload ChannelAuthRuleSpec} (admitted : (validateRule reader obj).2 = []) :
    ConnectionUsable reader obj.metadata.ns obj.spec.connectionRef := by
  have nothing : validateConnectionRef reader obj.metadata.ns obj.spec.connectionRef connectionRefPath = [] := by
    rw [validateRule, validateChannelAuthRuleSpecV1Beta1] at admitted
    simp only at admitted
    split at admitted
    · exact admitted
    · exact (List.append_eq_nil_iff.mp admitted).1
  exact (validateConnectionRef_eq_nil_iff reader _ _ _).mp nothing

end Checks

def Checked (reader : Reader) (r : Resource) : Prop :=
  (∀ name, r.connectionRef = some name → ConnectionUsable reader r.metadata.ns name) ∧
    ∀ spec ∈ r.channelSpec, SenderComplete spec

theorem checked_of_usable {reader : Reader} {r : Resource} {ref : String} (named : r.connectionRef = some ref)
    (other : r.channelSpec = none) (usable : ConnectionUsable reader r.metadata.ns ref) : Checked reader r := by
  refine ⟨fun name same => ?_, fun spec member => ?_⟩
  · rw [named] at same
    cases same
    exact usable
  · rw [other] at member
    cases member

theorem checked_of_create {reader : Reader} {r : Resource} (admitted : (validateCreate reader r).err = none) :
    Checked reader r := by
  cases r with
  | queue obj =>
    rw [validateCreate, admissionResult_err_eq_none_iff, validateQueue_eq_nil_iff] at admitted
    exact checked_of_usable rfl rfl admitted
  | topic obj =>
    rw [validateCreate, admissionResult_err_eq_none_iff, validateTopic_eq_nil_iff] at admitted
    exact checked_of_usable rfl rfl admitted
  | channel obj =>
    rw [validateCreate, admissionResult_err_eq_none_iff, validateChannel_eq_nil_iff] at admitted
    refine ⟨fun name same => ?_, fun spec same => ?_⟩
    · cases same
      exact admitted.1
    · cases same
      exact admitted.2
  | channelAuthRule obj =>
    rw [validateCreate, admissionResult_err_eq_none_iff] at admitted
    exact checked_of_usable rfl rfl (usable_of_validateRule reader admitted)
  | authorityRecord obj =>
    rw [validateCreate, admissionResult_err_eq_none_iff, validateRecord_eq_nil_iff] at admitted
    exact checked_of_usable rfl rfl admitted
  | connection conn =>
    refine ⟨fun name same => ?_, fun spec same => ?_⟩
    · cases same
    · cases same

theorem validateUpdate_of_checked {reader : Reader} {r : Resource} (old : Resource) (checked : r.unchecked = false) :
    validateUpdate reader old r = validateCreate reader r := by
  cases r with
  | channelAuthRule obj => exact if_neg (Bool.eq_false_iff.mp checked)
  | authorityRecord obj => exact if_neg (Bool.eq_false_iff.mp checked)
  | _ => rfl

theorem unused_of_delete {cluster : Cluster} {reads : Reads} (current : Current cluster reads)
    {conn : QueueManagerConnection} (admitted : (validateDelete reads.lists (.connection conn)).err = none) :
    Unused Resource.refers cluster (Resource.connection conn).key := by
  have nothing : validateQueueManagerConnectionDeleteV1Beta1 reads.lists conn = [] := by
    rw [validateDelete] at admitted
    split at admitted
    · cases admitted
    · next empty => exact List.eq_nil_of_length_eq_zero (Nat.eq_zero_of_not_pos empty)
  intro other r stored reference
  obtain ⟨-, name, named, same⟩ := Resource.refers_eq_some reference
  have ns : r.metadata.ns = conn.metadata.ns := (congrArg ResourceKey.ns same).symm
  have refName : name = conn.metadata.name := (congrArg ResourceKey.name same).symm
  -- the resource is in the list of its kind
  have listed : ∀ (k : WorkloadKind) (obj : Workload (reconcilerOf k).Spec), r.asWorkload k = some obj →
      connectionRefName obj = name → False := by
    intro k obj isKind aimed
    obtain ⟨answered, free⟩ := validateQueueManagerConnectionDeleteV1Beta1_eq_nil nothing k
    rcases current.lists conn.metadata.ns k with ⟨e, failed⟩ | ⟨items, found, complete⟩
    · exact answered e failed
    · exact free obj ⟨items, found, complete other r obj stored ns isKind, aimed.trans refName⟩
  cases r with
  | queue obj => exact listed .queue obj rfl (Option.some.inj named)
  | topic obj => exact listed .topic obj rfl (Option.some.inj named)
  | channel obj => exact listed .channel obj rfl (Option.some.inj named)
  | channelAuthRule obj => exact listed .channelAuthRule obj rfl (Option.some.inj named)
  | authorityRecord obj => exact listed .authorityRecord obj rfl (Option.some.inj named)
  | connection conn => cases named

theorem Sound.store {cluster : Cluster} (sound : Sound cluster) {r : Resource}
    (points : ∀ target, r.refers = some target → ∃ found, cluster.lookup target = some found ∧ found.Alive)
    (kept : r.Alive ∨ Unused Resource.refers cluster r.key) (wellFormed : r.WellFormed) : Sound (cluster.store r) := by
  unfold Cluster.store
  split
  next gone =>
    have unused : Unused Resource.refers cluster r.key := by
      refine kept.resolve_left fun living => ?_
      rw [Resource.deleting, living] at gone
      cases gone
    have others : ∀ key value, (cluster.erase r.key).lookup key = some value → cluster.lookup key = some value := by
      intro key value found
      have apart : key ≠ r.key := by
        rintro rfl
        rw [AList.lookup_erase] at found
        cases found
      rwa [AList.lookup_erase_ne apart] at found
    exact ⟨fun key value found => sound.keyed key value (others key value found), sound.intact.erase unused,
      fun key value found => sound.wellFormed key value (others key value found)⟩
  next =>
    have cases : ∀ key value, (cluster.insert r.key r).lookup key = some value →
        (key = r.key ∧ value = r) ∨ cluster.lookup key = some value := by
      intro key value found
      by_cases here : key = r.key
      · rw [here, AList.lookup_insert] at found
        exact .inl ⟨here, (Option.some.inj found).symm⟩
      · rw [AList.lookup_insert_ne here] at found
        exact .inr found
    refine ⟨fun key value found => ?_, ?_, fun key value found => ?_⟩
    · rcases cases key value found with ⟨rfl, rfl⟩ | earlier
      · rfl
      · exact sound.keyed key value earlier
    · exact sound.intact.insert (fun target reference => ⟨Resource.target_ne_key reference, points target reference⟩) kept
    · rcases cases key value found with ⟨rfl, rfl⟩ | earlier
      · exact wellFormed
      · exact sound.wellFormed key value earlier

theorem Sound.kept {cluster : Cluster} (sound : Sound cluster) {old r : Resource} (stored : cluster.lookup r.key = some old)
    (same : r.metadata.deletionTimestamp = old.metadata.deletionTimestamp) :
    r.Alive ∨ Unused Resource.refers cluster r.key := by
  by_cases living : old.Alive
  · exact .inl (same.trans living)
  · exact .inr (sound.intact.unused stored living)

theorem points_of_checked {cluster : Cluster} {reads : Reads} (current : Current cluster reads) {r : Resource}
    (checked : Checked reads.reader r) (target : ResourceKey) (reference : r.refers = some target) :
    ∃ found, cluster.lookup target = some found ∧ found.Alive := by
  obtain ⟨-, name, named, rfl⟩ := Resource.refers_eq_some reference
  obtain ⟨-, conn, read, living⟩ := checked.1 name named
  exact ⟨.connection conn, current.connection _ _ _ read, living⟩

theorem Checked.wellFormed {reader : Reader} {r : Resource} (checked : Checked reader r) : r.WellFormed where
  named _ empty := (checked.1 "" empty).1 rfl
  sender := checked.2

theorem Resource.WellFormed.of_same {old r : Resource} (wellFormed : old.WellFormed)
    (exempt : r.unchecked = false → old.unchecked = false) (sameRef : r.connectionRef = old.connectionRef)
    (sameSpec : r.channelSpec = old.channelSpec) : r.WellFormed where
  named checked := sameRef ▸ wellFormed.named (exempt checked)
  sender := sameSpec ▸ wellFormed.sender

theorem Sound.next {cluster : Cluster} (sound : Sound cluster) {call : ApiCall} (valid : cluster.valid call) :
    Sound (cluster.next call) := by
  obtain ⟨request, reads⟩ := call
  obtain ⟨current, possible⟩ := valid
  cases request with
  | create r =>
    obtain ⟨-, living, admitted⟩ := possible
    have checked := checked_of_create admitted
    exact sound.store (points_of_checked current checked) (.inl living) checked.wellFormed
  | update r =>
    obtain ⟨old, stored, same, admitted⟩ := possible
    cases checked : r.unchecked with
    | true =>
      refine sound.store (fun target reference => ?_) (sound.kept stored same) ⟨fun otherwise => ?_, fun spec member => ?_⟩
      · exact absurd (Resource.refers_eq_some reference).1 (by rw [checked]; decide)
      · exact absurd otherwise (by rw [checked]; decide)
      · cases r with
        | channel obj => cases checked
        | _ => cases member
    | false =>
      rw [validateUpdate_of_checked old checked] at admitted
      have whole := checked_of_create admitted
      exact sound.store (points_of_checked current whole) (sound.kept stored same) whole.wellFormed
  | updateStatus r =>
    obtain ⟨old, stored⟩ := possible
    simp only [Cluster.next, stored]
    obtain ⟨sameKey, sameMeta, sameRef, sameSpec, sameExempt, sameName⟩ := old.takeStatus_declaration r
    have home : cluster.lookup (old.takeStatus r).key = some old := by
      rw [sameKey, sound.keyed _ _ stored, stored]
    refine sound.store (fun target reference => ?_) (sound.kept home (by rw [sameMeta]))
      ((sound.wellFormed _ _ stored).of_same (fun checked => sameExempt ▸ checked) sameName sameSpec)
    rw [sameRef] at reference
    exact sound.intact _ _ stored target reference
  | delete key time =>
    obtain ⟨old, stored, admitted⟩ := possible
    simp only [Cluster.next, stored]
    refine sound.store (fun target reference => ?_) (.inr ?_) ((sound.wellFormed _ _ stored).of_same ?_ ?_ ?_)
    · exact sound.intact _ _ stored target (Resource.refers_of_deletedAt reference)
    · rw [Resource.key_deletedAt]
      cases old with
      | connection conn => exact unused_of_delete current admitted
      | _ => exact unused_of_workload nofun
    · exact Resource.unchecked_of_deletedAt
    · exact old.connectionRef_deletedAt time
    · exact old.channelSpec_deletedAt time

theorem Sound.connection {cluster : Cluster} (sound : Sound cluster) {key : ResourceKey} {r : Resource}
    (stored : cluster.lookup key = some r) (checked : r.unchecked = false) {name : String}
    (named : r.connectionRef = some name) :
    ∃ conn, cluster.lookup ⟨.connection, r.metadata.ns, name⟩ = some (.connection conn) ∧
      (Resource.connection conn).key = ⟨.connection, r.metadata.ns, name⟩ ∧ (Resource.connection conn).Alive := by
  have reference : r.refers = some ⟨.connection, r.metadata.ns, name⟩ := by
    rw [Resource.refers, checked, named]
    rfl
  obtain ⟨found, there, living⟩ := sound.intact key r stored _ reference
  have home := sound.keyed _ _ there
  cases found with
  | connection conn => exact ⟨conn, there, home, living⟩
  | _ => cases congrArg ResourceKey.kind home

def Cluster.listed (cluster : Cluster) (k : WorkloadKind) (ns : String) : List (Workload (reconcilerOf k).Spec) :=
  cluster.entries.filterMap fun entry => if entry.2.metadata.ns = ns then entry.2.asWorkload k else none

def Cluster.reads (cluster : Cluster) (secret : String → String → Lookup Secret) : Reads where
  reader :=
    { connection := fun ns name => match cluster.lookup ⟨.connection, ns, name⟩ with
        | some (.connection conn) => .found conn
        | _ => .notFound (.plain name)
      secret := secret
      channels := fun ns _ => .items (cluster.listed .channel ns) }
  lists ns k := .items (cluster.listed k ns)

theorem Sound.usable {cluster : Cluster} (sound : Sound cluster) {key : ResourceKey} {r : Resource}
    (stored : cluster.lookup key = some r) (checked : r.unchecked = false) {reader : Reader}
    (reads : ∀ ns name conn, cluster.lookup ⟨.connection, ns, name⟩ = some (.connection conn) →
      reader.connection ns name = .found conn)
    {name : String} (named : r.connectionRef = some name) : ConnectionUsable reader r.metadata.ns name := by
  obtain ⟨conn, there, -, living⟩ := sound.connection stored checked named
  refine ⟨?_, conn, reads _ _ _ there, living⟩
  rintro rfl
  exact (sound.wellFormed key r stored).named checked named

end Server

section Cases

attribute [local instance] asciiTables

end Cases

end MKurator.Webhook
