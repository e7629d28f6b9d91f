import MKurator.Controller.Kinds
import MKurator.Lib.Maps

/-! The desired attributes of queues, topics and channels: the attribute map of the spec under normalized keys, with the
typed fields folded in. -/

namespace MKurator.Controller
open MKurator.Api MKurator.MqAdmin MKurator.Lib.Strings MKurator.Lib.Maps

section Fields

variable [UnicodeTables]

/-- A typed field by the key that it is folded in under, if it is set. -/
abbrev TypedField := String × Option String

def withField (attrs : StringMap) (field : TypedField) : StringMap :=
  match field.2 with
  | some value => setAttr field.1 value attrs
  | none => attrs

def withFields (attrs : StringMap) (fields : List TypedField) : StringMap := fields.foldl withField attrs

theorem withFields_cons (attrs : StringMap) (field : TypedField) (fields : List TypedField) :
    withFields attrs (field :: fields) = withFields (withField attrs field) fields := rfl

/-- A text field counts as set when it is not empty. -/
def givenText (value : String) : Option String := if value ≠ "" then some value else none

def queueFields (q : Api.QueueSpec) : List TypedField :=
  [("maxdepth", q.maxDepth.map toString), ("descr", givenText q.description),
    ("defpsist", q.defPersistence.map DefaultPersistence.text), ("get", q.get.map AccessEnabled.text),
    ("put", q.put.map AccessEnabled.text), ("targq", givenText q.targetQueue), ("xmitq", givenText q.xmitQueue),
    ("rqmname", givenText q.remoteQueueManager)]

def topicFields (topic : Api.TopicSpec) : List TypedField :=
  [("topstr", givenText topic.topicString), ("descr", givenText topic.description),
    ("pub", topic.publish.map AccessEnabled.text), ("sub", topic.subscribe.map AccessEnabled.text),
    ("defpsist", topic.defPersistence.map DefaultPersistence.text), ("pubscope", givenText topic.publishScope),
    ("subscope", givenText topic.subscribeScope)]

def channelFields (channel : Api.ChannelSpec) : List TypedField :=
  [("descr", givenText channel.description), ("maxmsgl", channel.maxMsgLength.map toString),
    ("trptype", channel.transportType.map ChannelTransportType.text), ("sharecnv", channel.shareConv.map toString),
    ("mcauser", givenText channel.mcaUser), ("maxinst", channel.maxInstances.map toString),
    ("maxinstc", channel.maxInstancesClient.map toString), ("sslciph", givenText channel.sslCipherSpec),
    ("sslcauth", channel.sslClientAuth.map ChannelSslClientAuth.text), ("conname", givenText channel.connName),
    ("xmitq", givenText channel.xmitQueue)]

theorem setText_eq (key value : String) (attrs : StringMap) :
    setText key value attrs = withField attrs (key, givenText value) := by
  unfold setText withField givenText
  split <;> rfl

theorem setOption_eq {α : Type} (key : String) (text : α → String) (value : Option α) (attrs : StringMap) :
    setOption key text value attrs = withField attrs (key, value.map text) := by
  cases value <;> rfl

theorem attributes_toMQQueueSpec (q : Api.QueueSpec) :
    (toMQQueueSpec q).attributes = withFields (normalizedAttributes q.attributes) (queueFields q) := by
  simp only [toMQQueueSpec, setText_eq, setOption_eq]
  rfl

theorem attributes_toMQTopicSpec (topic : Api.TopicSpec) :
    (toMQTopicSpec topic).attributes = withFields (normalizedAttributes topic.attributes) (topicFields topic) := by
  simp only [toMQTopicSpec, setText_eq, setOption_eq]
  rfl

theorem attributes_toMQChannelSpec (channel : Api.ChannelSpec) :
    (toMQChannelSpec channel).attributes = withFields (normalizedAttributes channel.attributes) (channelFields channel) := by
  simp only [toMQChannelSpec, setText_eq, setOption_eq]
  rfl

end Fields

section Keys

variable [UnicodeTables]

def Normalized (attrs : StringMap) : Prop := ∀ key value, attrs.lookup key = some value → normalizeAttrKey key = key

theorem Normalized.withFields {attrs : StringMap} (normalized : Normalized attrs) (fields : List TypedField) :
    Normalized (withFields attrs fields) := by
  induction fields generalizing attrs with
  | nil => exact normalized
  | cons field fields ih =>
    apply ih
    intro key value found
    unfold withField at found
    split at found
    · by_cases same : key = normalizeAttrKey field.1
      · rw [same, normalizeAttrKey_normalizeAttrKey]
      · rw [setAttr, AList.lookup_insert_ne same] at found
        exact normalized key value found
    · exact normalized key value found

theorem normalizedAttributes_eq_fill (attributes : StringMap) :
    normalizedAttributes attributes = fill normalizeAttrKey (fun _ value => value) attributes.entries ∅ := rfl

theorem normalizedAttributes_normalized (attributes : StringMap) : Normalized (normalizedAttributes attributes) := by
  intro key value found
  rw [normalizedAttributes_eq_fill] at found
  rcases lookup_fill_cases found with before | ⟨entry, -, rfl, -⟩
  · cases before
  · exact normalizeAttrKey_normalizeAttrKey entry.1

theorem lookup_withFields_cases {attrs : StringMap} {fields : List TypedField} {key value : String}
    (found : (withFields attrs fields).lookup key = some value) :
    (∃ field ∈ fields, normalizeAttrKey field.1 = key ∧ field.2 = some value) ∨ attrs.lookup key = some value := by
  induction fields generalizing attrs with
  | nil => exact .inr found
  | cons field fields ih =>
    rcases ih found with ⟨later, member, same, given⟩ | here
    · exact .inl ⟨later, List.mem_cons_of_mem _ member, same, given⟩
    · unfold withField at here
      split at here
      next text given =>
        by_cases same : key = normalizeAttrKey field.1
        · rw [same, setAttr, AList.lookup_insert] at here
          exact .inl ⟨field, List.mem_cons_self .., same.symm, given.trans here⟩
        · rw [setAttr, AList.lookup_insert_ne same] at here
          exact .inr here
      next => exact .inr here

theorem lookup_withFields_of_absent {attrs : StringMap} {fields : List TypedField} {key : String}
    (absent : ∀ name value, (name, some value) ∈ fields → normalizeAttrKey name ≠ key) :
    (withFields attrs fields).lookup key = attrs.lookup key := by
  induction fields generalizing attrs with
  | nil => rfl
  | cons field fields ih =>
    rw [withFields_cons, ih fun name value member => absent name value (List.mem_cons_of_mem _ member)]
    obtain ⟨name, given⟩ := field
    cases given with
    | none => rfl
    | some value =>
      have apart := absent name value (List.mem_cons_self ..)
      exact AList.lookup_insert_ne (Ne.symm apart)

theorem lookup_withFields_of_set {attrs : StringMap} {fields : List TypedField} {name value : String}
    (distinct : (fields.map fun field => normalizeAttrKey field.1).Nodup) (member : (name, some value) ∈ fields) :
    (withFields attrs fields).lookup (normalizeAttrKey name) = some value := by
  induction fields generalizing attrs with
  | nil => cases member
  | cons field fields ih =>
    rw [List.map_cons, List.nodup_cons] at distinct
    rcases List.mem_cons.mp member with rfl | later
    · have absent : ∀ other given, (other, some given) ∈ fields → normalizeAttrKey other ≠ normalizeAttrKey name := by
        intro other given inside same
        apply distinct.1
        exact List.mem_map.mpr ⟨(other, some given), inside, same⟩
      rw [withFields_cons, lookup_withFields_of_absent absent]
      exact AList.lookup_insert _
    · rw [withFields_cons]
      exact ih distinct.2 later

theorem lookup_normalizedAttributes_cases {attributes : StringMap} {key value : String}
    (found : (normalizedAttributes attributes).lookup key = some value) :
    ∃ spelling, attributes.lookup spelling = some value ∧ normalizeAttrKey spelling = key := by
  rw [normalizedAttributes_eq_fill] at found
  rcases lookup_fill_cases found with before | ⟨entry, member, same, rfl⟩
  · cases before
  · exact ⟨entry.1, AList.mem_lookup_iff.mpr member, same⟩

theorem toMQQueueSpec_normalized (q : Api.QueueSpec) : Normalized (toMQQueueSpec q).attributes := by
  rw [attributes_toMQQueueSpec]
  exact (normalizedAttributes_normalized _).withFields _

theorem toMQTopicSpec_normalized (topic : Api.TopicSpec) : Normalized (toMQTopicSpec topic).attributes := by
  rw [attributes_toMQTopicSpec]
  exact (normalizedAttributes_normalized _).withFields _

theorem toMQChannelSpec_normalized (channel : Api.ChannelSpec) : Normalized (toMQChannelSpec channel).attributes := by
  rw [attributes_toMQChannelSpec]
  exact (normalizedAttributes_normalized _).withFields _

end Keys

section Order

variable [UnicodeTables]

/-- No two keys of the map are spellings of one attribute. -/
def DistinctKeys (attributes : StringMap) : Prop := (attributes.keys.map normalizeAttrKey).Nodup

theorem lookup_normalizedAttributes {attributes : StringMap} (distinct : DistinctKeys attributes) {key value : String}
    (found : attributes.lookup key = some value) :
    (normalizedAttributes attributes).lookup (normalizeAttrKey key) = some value := by
  have inside : key ∈ attributes.keys := AList.mem_keys.mp (AList.lookup_isSome.mp (Option.isSome_of_eq_some found))
  rw [normalizedAttributes_eq_fill]
  exact @lookup_fill_entries _ _ _ _ _ normalizeAttrKey (fun _ value => value) ∅ _ _ _ _ found fun other listed same =>
    List.inj_on_of_nodup_map distinct listed inside same

def Agree (first second : StringMap) : Prop := ∀ key, first.lookup key = second.lookup key

theorem Agree.withFields {first second : StringMap} (agree : Agree first second) (fields : List TypedField) :
    Agree (withFields first fields) (withFields second fields) := by
  induction fields generalizing first second with
  | nil => exact agree
  | cons field fields ih =>
    apply ih
    intro key
    unfold withField
    split
    · by_cases same : key = normalizeAttrKey field.1
      · rw [same, setAttr, setAttr, AList.lookup_insert, AList.lookup_insert]
      · rw [setAttr, setAttr, AList.lookup_insert_ne same, AList.lookup_insert_ne same, agree key]
    · exact agree key

/-- Go walks a map in any order; without two spellings of one key the outcome is the same. -/
theorem normalizedAttributes_agree {first second : StringMap} (distinct : DistinctKeys first)
    (perm : second.entries.Perm first.entries) : Agree (normalizedAttributes second) (normalizedAttributes first) := by
  intro key
  rw [normalizedAttributes_eq_fill, normalizedAttributes_eq_fill]
  apply lookup_fill_perm perm
  intro one inside two inside' same
  have keys : one.1 = two.1 :=
    List.inj_on_of_nodup_map distinct (List.mem_map_of_mem inside) (List.mem_map_of_mem inside') same
  obtain ⟨name, value⟩ := one
  obtain ⟨name', value'⟩ := two
  obtain rfl : name = name' := keys
  have values := (AList.mem_lookup_iff.mpr inside).symm.trans (AList.mem_lookup_iff.mpr inside')
  cases values
  rfl

end Order

section Names

variable [UnicodeTables]

/-- The names of typed fields are drift-check keys already, no two of them the same. -/
structure FieldNames (fields : List TypedField) : Prop where
  normal : ∀ name ∈ fields.map Prod.fst, normalizeAttrKey name = name
  distinct : (fields.map Prod.fst).Nodup

theorem FieldNames.of_literals {fields : List TypedField} (names : List String) (listed : fields.map Prod.fst = names)
    (literal : ∀ name ∈ names, name.toList.all isPlain = true ∧ String.ofList (name.toList.map Char.toLower) = name ∧
      name ≠ "topicstr")
    (distinct : names.Nodup) : FieldNames fields where
  normal := by
    intro name member
    rw [listed] at member
    obtain ⟨plain, lower, other⟩ := literal name member
    exact normalizeAttrKey_literal plain lower other
  distinct := listed ▸ distinct

theorem queueFields_names (q : Api.QueueSpec) : FieldNames (queueFields q) :=
  .of_literals ["maxdepth", "descr", "defpsist", "get", "put", "targq", "xmitq", "rqmname"] rfl (by decide) (by decide)

theorem topicFields_names (topic : Api.TopicSpec) : FieldNames (topicFields topic) :=
  .of_literals ["topstr", "descr", "pub", "sub", "defpsist", "pubscope", "subscope"] rfl (by decide) (by decide)

theorem channelFields_names (channel : Api.ChannelSpec) : FieldNames (channelFields channel) :=
  .of_literals ["descr", "maxmsgl", "trptype", "sharecnv", "mcauser", "maxinst", "maxinstc", "sslciph", "sslcauth", "conname",
    "xmitq"] rfl (by decide) (by decide)

end Names

end MKurator.Controller
