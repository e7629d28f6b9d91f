import MKurator.Convergence.Attributes
import MKurator.Validation.Rules

/-! Whether the drift check sees every attribute that a resource sets, under every spelling that the API accepts. -/

namespace MKurator.Convergence
open MKurator.Api MKurator.Lib.Strings MKurator.Lib.Maps MKurator.MqAdmin MKurator.MqRest MKurator.Controller
  MKurator.Validation

section Settings

variable [UnicodeTables]

/-- What a resource asks for: the typed fields that are set, and the map under the attributes that the API means. -/
def settings (synonyms : Synonyms) (fields : List TypedField) (attributes : StringMap) : List (String × String) :=
  fields.filterMap (fun field => field.2.map fun value => (field.1, value)) ++
    attributes.entries.map fun entry => (attributeOf synonyms entry.1, entry.2)

/-- Every drift-checked setting from which the observed object differs asks for an update, so that an ensure step over
that object ends in `Synced=True` only after a DEFINE. -/
def DriftSeen (K : Kind) (spec : K.Spec) (state : StringMap → K.State) (desired : StringMap)
    (asked : List (String × String)) (keys : List String) : Prop :=
  ∀ observed, ∀ setting ∈ asked, setting.1 ∈ keys.map normalizeAttrKey →
    attributeValueMatches setting.1 setting.2 (observed.get setting.1) = false →
    attributesNeedUpdate desired observed keys = true ∧
    ∀ admin obj, admin.get (K.toMQ spec) = (some (state observed), none) → K.driftKeys admin (K.toMQ spec) = .ok keys →
      (K.ensure admin obj (K.toMQ spec)).value.err = none → (K.ensure admin obj (K.toMQ spec)).value.drift = none →
      .define (K.toMQ spec) ∈ (K.ensure admin obj (K.toMQ spec)).calls

/-- The value that a spec gives a key: that of its typed field, if it is set, and otherwise that of the last entry of the
map, in the order in which it is walked, whose key is a spelling of this one. -/
inductive Decides (fields : List TypedField) (attributes : StringMap) (key value : String) : Prop
  | field (typed : (key, some value) ∈ fields)
  | entry (untyped : ∀ given, (key, some given) ∉ fields) (before after : List (Σ _ : String, String)) (spelling : String)
      (walked : attributes.entries = before ++ ⟨spelling, value⟩ :: after) (same : normalizeAttrKey spelling = key)
      (last : ∀ later ∈ after, normalizeAttrKey later.1 ≠ key)

/-- Wherever the map sets a drift-checked attribute, by whatever name the API knows it, the spec decides on that
attribute's own key with a matching value. -/
def KeepsMap (synonyms : Synonyms) (fields : List TypedField) (attributes : StringMap) (keys : List String) : Prop :=
  ∀ entry ∈ attributes.entries, attributeOf synonyms entry.1 ∈ keys.map normalizeAttrKey →
    ∃ value, Decides fields attributes (attributeOf synonyms entry.1) value ∧
      attributeValueMatches (attributeOf synonyms entry.1) entry.2 value = true

theorem lookup_withFields_of_member {fields : List TypedField} (names : FieldNames fields) (attrs : StringMap)
    {name value : String} (member : (name, some value) ∈ fields) :
    (withFields attrs fields).lookup name = some value := by
  have normal : (fields.map fun field => normalizeAttrKey field.1) = fields.map Prod.fst := by
    refine List.map_congr_left fun field inside => ?_
    exact names.normal _ (List.mem_map_of_mem inside)
  have distinct : (fields.map fun field => normalizeAttrKey field.1).Nodup := normal ▸ names.distinct
  have found : (withFields attrs fields).lookup (normalizeAttrKey name) = some value :=
    lookup_withFields_of_set distinct member
  rwa [names.normal name (List.mem_map_of_mem (f := Prod.fst) member)] at found

theorem lookup_withFields_iff_decides {fields : List TypedField} (names : FieldNames fields) (attributes : StringMap)
    (key value : String) :
    (withFields (normalizedAttributes attributes) fields).lookup key = some value ↔ Decides fields attributes key value := by
  have absent : (∀ given, (key, some given) ∉ fields) →
      ∀ name given, (name, some given) ∈ fields → normalizeAttrKey name ≠ key := by
    intro untyped name given member same
    rw [names.normal name (List.mem_map_of_mem (f := Prod.fst) member)] at same
    exact untyped given (same ▸ member)
  constructor
  · intro found
    by_cases typed : ∃ given, (key, some given) ∈ fields
    · obtain ⟨given, member⟩ := typed
      rw [lookup_withFields_of_member names _ member] at found
      exact .field (Option.some.inj found ▸ member)
    · have untyped : ∀ given, (key, some given) ∉ fields := fun given member => typed ⟨given, member⟩
      rw [lookup_withFields_of_absent (absent untyped), normalizedAttributes_eq_fill, lookup_fill_iff_last] at found
      obtain ⟨before, ⟨spelling, given⟩, after, walked, same, rfl, last⟩ := found
      exact .entry untyped before after spelling walked same last
  · intro decides
    cases decides with
    | field member => exact lookup_withFields_of_member names _ member
    | entry untyped before after spelling walked same last =>
      rw [lookup_withFields_of_absent (absent untyped), normalizedAttributes_eq_fill, lookup_fill_iff_last]
      exact ⟨before, ⟨spelling, value⟩, after, walked, same, rfl, last⟩

def Kept (desired : StringMap) (setting : String × String) : Prop :=
  ∃ kept, desired.lookup setting.1 = some kept ∧ attributeValueMatches setting.1 setting.2 kept = true

theorem needsUpdate_of_kept {desired observed : StringMap} {keys : List String} {setting : String × String}
    (normalized : Normalized desired) (kept : Kept desired setting) (checked : setting.1 ∈ keys.map normalizeAttrKey)
    (differs : attributeValueMatches setting.1 setting.2 (observed.get setting.1) = false) :
    attributesNeedUpdate desired observed keys = true := by
  obtain ⟨value, found, same⟩ := kept
  have normal := normalized _ _ found
  rw [attributesNeedUpdate_iff]
  refine ⟨setting.1, value, found, by rwa [normal], ?_⟩
  rw [normal, Bool.eq_false_iff]
  intro shown
  rw [attributeValueMatches_iff] at same shown
  rw [(attributeValueMatches_iff _ _ _).mpr (same.trans shown)] at differs
  cases differs

/-- A setting that is not kept can drift unseen: the desired map itself, with another value for an attribute that it does
not have, shows no difference. -/
theorem exists_unseen {desired : StringMap} (keys : List String) {setting : String × String}
    (normalized : Normalized desired) (lost : ¬Kept desired setting) :
    ∃ observed : StringMap, attributeValueMatches setting.1 setting.2 (observed.get setting.1) = false ∧
      attributesNeedUpdate desired observed keys = false := by
  have unseen : ∀ observed : StringMap, (∀ key value, desired.lookup key = some value → observed.get key = value) →
      attributesNeedUpdate desired observed keys = false := by
    intro observed shown
    rw [Bool.eq_false_iff, ne_eq, attributesNeedUpdate_iff]
    rintro ⟨key, value, found, -, differs⟩
    rw [normalized key value found, shown key value found, attributeValueMatches_self] at differs
    cases differs
  cases found : desired.lookup setting.1 with
  | none =>
    obtain ⟨other, differs⟩ := exists_mismatch setting.1 setting.2
    refine ⟨desired.insert setting.1 other, ?_, unseen _ fun key value present => ?_⟩
    · rwa [StringMap.get, AList.lookup_insert]
    · have apart : key ≠ setting.1 := by
        rintro rfl
        rw [found] at present
        cases present
      rw [StringMap.get, AList.lookup_insert_ne apart, present]
      rfl
  | some value =>
    refine ⟨desired, ?_, unseen _ fun key value present => by rw [StringMap.get, present]; rfl⟩
    rw [StringMap.get, found, Option.getD_some, Bool.eq_false_iff]
    exact fun same => lost ⟨value, found, same⟩

theorem driftSeen_iff (K : Kind) (spec : K.Spec) (state : StringMap → K.State) (synonyms : Synonyms)
    {fields : List TypedField} (names : FieldNames fields) (attributes : StringMap) (keys : List String)
    (compares : ∀ observed, K.differs keys (K.toMQ spec) (state observed) =
      attributesNeedUpdate (withFields (normalizedAttributes attributes) fields) observed keys) :
    DriftSeen K spec state (withFields (normalizedAttributes attributes) fields) (settings synonyms fields attributes) keys ↔
      KeepsMap synonyms fields attributes keys := by
  have normalized := (normalizedAttributes_normalized attributes).withFields fields
  have decided := lookup_withFields_iff_decides names attributes
  constructor
  · intro seen entry member checked
    by_contra lost
    have unkept : ¬Kept (withFields (normalizedAttributes attributes) fields) (attributeOf synonyms entry.1, entry.2) := by
      rintro ⟨value, found, same⟩
      exact lost ⟨value, (decided _ value).mp found, same⟩
    obtain ⟨observed, differs, unseen⟩ := exists_unseen keys normalized unkept
    have asked : (attributeOf synonyms entry.1, entry.2) ∈ settings synonyms fields attributes :=
      List.mem_append.mpr (.inr (List.mem_map.mpr ⟨entry, member, rfl⟩))
    rw [(seen observed _ asked checked differs).1] at unseen
    cases unseen
  · intro keeps observed setting member checked differs
    have kept : Kept (withFields (normalizedAttributes attributes) fields) setting := by
      rcases List.mem_append.mp member with typed | inMap
      · obtain ⟨⟨name, given⟩, inside, set⟩ := List.mem_filterMap.mp typed
        obtain ⟨value, rfl, rfl⟩ := Option.map_eq_some_iff.mp set
        exact ⟨value, lookup_withFields_of_member names _ inside, attributeValueMatches_self _ _⟩
      · obtain ⟨entry, inside, rfl⟩ := List.mem_map.mp inMap
        obtain ⟨value, decides, same⟩ := keeps entry inside checked
        exact ⟨value, (decided _ value).mpr decides, same⟩
    have needed := needsUpdate_of_kept normalized kept checked differs
    refine ⟨needed, fun admin obj shown resolved fine still => ?_⟩
    exact K.define_of_synced shown resolved ((compares observed).trans needed) obj fine still

section Kinds

theorem queue_driftSeen_iff (displayable : String → Bool) (q : Api.QueueSpec) :
    DriftSeen queueReconciler q (fun observed => ⟨q.queueName, observed⟩) (toMQQueueSpec q).attributes
        (settings queueSynonyms (queueFields q) q.attributes) (queueDisplayParametersForGet displayable q.type) ↔
      KeepsMap queueSynonyms (queueFields q) q.attributes (queueDisplayParametersForGet displayable q.type) := by
  rw [attributes_toMQQueueSpec]
  apply driftSeen_iff queueReconciler q _ queueSynonyms (queueFields_names q)
  intro observed
  rw [← attributes_toMQQueueSpec]
  rfl

theorem topic_driftSeen_iff (topic : Api.TopicSpec) :
    DriftSeen topicReconciler topic (fun observed => ⟨topic.topicName, observed⟩) (toMQTopicSpec topic).attributes
        (settings topicSynonyms (topicFields topic) topic.attributes) topicDisplayParameters ↔
      KeepsMap topicSynonyms (topicFields topic) topic.attributes topicDisplayParameters := by
  rw [attributes_toMQTopicSpec]
  apply driftSeen_iff topicReconciler topic _ topicSynonyms (topicFields_names topic)
  intro observed
  rw [← attributes_toMQTopicSpec]
  rfl

theorem channel_driftSeen_iff (channel : Api.ChannelSpec) :
    DriftSeen channelReconciler channel (fun observed => ⟨channel.channelName, observed⟩)
        (toMQChannelSpec channel).attributes (settings channelSynonyms (channelFields channel) channel.attributes)
        (channelDisplayParametersForType (normalizeChannelType channel.type)) ↔
      KeepsMap channelSynonyms (channelFields channel) channel.attributes
        (channelDisplayParametersForType (normalizeChannelType channel.type)) := by
  rw [attributes_toMQChannelSpec]
  apply driftSeen_iff channelReconciler channel _ channelSynonyms (channelFields_names channel)
  intro observed
  rw [← attributes_toMQChannelSpec]
  rfl

end Kinds

/-- The drift check sees all that a resource sets exactly when, for each drift-checked entry of its map, the typed field or
entry that decides on the attribute's own key agrees with it. -/
theorem drift_seen_iff_kept :
    (∀ (displayable : String → Bool) (q : Api.QueueSpec),
      DriftSeen queueReconciler q (fun observed => ⟨q.queueName, observed⟩) (toMQQueueSpec q).attributes
          (settings queueSynonyms (queueFields q) q.attributes) (queueDisplayParametersForGet displayable q.type) ↔
        KeepsMap queueSynonyms (queueFields q) q.attributes (queueDisplayParametersForGet displayable q.type)) ∧
    (∀ topic : Api.TopicSpec,
      DriftSeen topicReconciler topic (fun observed => ⟨topic.topicName, observed⟩) (toMQTopicSpec topic).attributes
          (settings topicSynonyms (topicFields topic) topic.attributes) topicDisplayParameters ↔
        KeepsMap topicSynonyms (topicFields topic) topic.attributes topicDisplayParameters) ∧
    (∀ channel : Api.ChannelSpec,
      DriftSeen channelReconciler channel (fun observed => ⟨channel.channelName, observed⟩)
          (toMQChannelSpec channel).attributes (settings channelSynonyms (channelFields channel) channel.attributes)
          (channelDisplayParametersForType (normalizeChannelType channel.type)) ↔
        KeepsMap channelSynonyms (channelFields channel) channel.attributes
          (channelDisplayParametersForType (normalizeChannelType channel.type))) :=
  ⟨queue_driftSeen_iff, topic_driftSeen_iff, channel_driftSeen_iff⟩

/-- The map spells every checked attribute by its own name, in any case, and none twice. -/
structure PlainMap (synonyms : Synonyms) (attributes : StringMap) (keys : List String) : Prop where
  distinct : DistinctKeys attributes
  own : ∀ key ∈ attributes.keys, attributeOf synonyms key ∈ keys.map normalizeAttrKey →
    normalizeAttrKey key = attributeOf synonyms key

theorem keepsMap_of_plain {synonyms : Synonyms} {fields : List TypedField} {attributes : StringMap} {keys : List String}
    (names : FieldNames fields) (apart : FieldsApart synonyms fields attributes)
    (plain : PlainMap synonyms attributes keys) : KeepsMap synonyms fields attributes keys := by
  intro entry member checked
  have inside : entry.1 ∈ attributes.keys := List.mem_map_of_mem member
  refine ⟨entry.2, (lookup_withFields_iff_decides names attributes _ _).mp ?_, attributeValueMatches_self _ _⟩
  rw [lookup_withFields_of_absent fun name value typed => ?_, ← plain.own entry.1 inside checked]
  · exact lookup_normalizedAttributes plain.distinct (AList.mem_lookup_iff.mpr member)
  · rw [names.normal name (List.mem_map_of_mem (f := Prod.fst) typed)]
    exact Ne.symm (apart name value typed entry.1 inside)

theorem drift_seen_of_admitted :
    (∀ (displayable : String → Bool) (q : Api.QueueSpec), Admitted (queueRules q) →
      PlainMap queueSynonyms q.attributes (queueDisplayParametersForGet displayable q.type) →
      DriftSeen queueReconciler q (fun observed => ⟨q.queueName, observed⟩) (toMQQueueSpec q).attributes
        (settings queueSynonyms (queueFields q) q.attributes) (queueDisplayParametersForGet displayable q.type)) ∧
    (∀ topic : Api.TopicSpec, Admitted (topicRules topic) →
      PlainMap topicSynonyms topic.attributes topicDisplayParameters →
      DriftSeen topicReconciler topic (fun observed => ⟨topic.topicName, observed⟩) (toMQTopicSpec topic).attributes
        (settings topicSynonyms (topicFields topic) topic.attributes) topicDisplayParameters) ∧
    (∀ channel : Api.ChannelSpec, Admitted (channelRules channel) →
      PlainMap channelSynonyms channel.attributes (channelDisplayParametersForType (normalizeChannelType channel.type)) →
      DriftSeen channelReconciler channel (fun observed => ⟨channel.channelName, observed⟩)
        (toMQChannelSpec channel).attributes (settings channelSynonyms (channelFields channel) channel.attributes)
        (channelDisplayParametersForType (normalizeChannelType channel.type))) := by
  refine ⟨fun displayable q admitted plain => ?_, fun topic admitted plain => ?_, fun channel admitted plain => ?_⟩
  · exact (queue_driftSeen_iff displayable q).mpr (keepsMap_of_plain (queueFields_names q) (queue_fieldsApart admitted) plain)
  · exact (topic_driftSeen_iff topic).mpr (keepsMap_of_plain (topicFields_names topic) (topic_fieldsApart admitted) plain)
  · exact (channel_driftSeen_iff channel).mpr
      (keepsMap_of_plain (channelFields_names channel) (channel_fieldsApart admitted) plain)

end Settings

section Cases

attribute [local instance] asciiTables

theorem deepQueue_drift_seen :
    Admitted (queueRules deepQueue) ∧
    attributesNeedUpdate (toMQQueueSpec deepQueue).attributes (AList.singleton "maxdepth" "4000")
      (queueDisplayParametersForGet (fun _ => false) deepQueue.type) = true := by
  have admitted : Admitted (queueRules deepQueue) := by decide
  have kept : KeepsMap queueSynonyms (queueFields deepQueue) deepQueue.attributes
      (queueDisplayParametersForGet (fun _ => false) deepQueue.type) :=
    keepsMap_of_plain (queueFields_names deepQueue) (queue_fieldsApart admitted) ⟨List.nodup_singleton _, by decide⟩
  have seen := (drift_seen_iff_kept.1 (fun _ => false) deepQueue).mpr kept
  exact ⟨admitted, (seen (AList.singleton "maxdepth" "4000") ("maxdepth", "+5000") (by decide) (by decide) (by decide)).1⟩

def aliasByTarget : Api.QueueSpec :=
  { (ordersQueue none).spec with type := .aliasQueue, attributes := AList.singleton "target" "ORDERS" }

/-- The rules take `target` for `targq`, but an alias that points elsewhere is not seen to differ. -/
theorem target_drift_unseen :
    Admitted (queueRules aliasByTarget) ∧
    ("targq", "ORDERS") ∈ settings queueSynonyms (queueFields aliasByTarget) aliasByTarget.attributes ∧
    "targq" ∈ (queueDisplayParametersForGet (fun _ => true) aliasByTarget.type).map normalizeAttrKey ∧
    attributeValueMatches "targq" "ORDERS" (StringMap.get (AList.singleton "targq" "PAYMENTS") "targq") = false ∧
    attributesNeedUpdate (toMQQueueSpec aliasByTarget).attributes (AList.singleton "targq" "PAYMENTS")
      (queueDisplayParametersForGet (fun _ => true) aliasByTarget.type) = false := by
  decide

end Cases

end MKurator.Convergence
