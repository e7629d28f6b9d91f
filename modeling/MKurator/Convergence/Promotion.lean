import MKurator.Convergence.Folding
import MKurator.Convergence.Order
import MKurator.Validation.Specs

/-! Moving attributes into typed fields does not change what the resource asks for: the DEFINE command and the outcome of
the drift check stay as they were, and no attribute gets lost on the way. -/

namespace MKurator.Convergence
open MKurator.Api MKurator.MqAdmin MKurator.MqRest MKurator.Controller MKurator.Validation MKurator.Lib.Strings
open MKurator.Lib.Maps

section Meaning

variable [UnicodeTables] {σ : Type} {P : Promotion σ} {first : σ} {order : StringMap} {state : σ × StringMap}

def asked (P : Promotion σ) (state : σ × StringMap) (name : String) : Option String :=
  (P.text state.1 name).or ((normalizedAttributes state.2).lookup name)

theorem lookup_left (walked : P.Walked first order order.entries.reverse state)
    (named : ∀ entry ∈ order.entries, ∀ fold, P.find entry.1 = some fold → normalizeAttrKey entry.1 = ownKey fold)
    (given : ∀ entry ∈ order.entries, P.find entry.1 ≠ none → entry.2 ≠ "") {name : String}
    (alike : ∀ one ∈ order.entries, ∀ two ∈ order.entries, normalizeAttrKey one.1 = name → normalizeAttrKey two.1 = name →
      one.2 = two.2)
    (unset : P.text state.1 name = none) :
    (normalizedAttributes state.2).lookup name = (normalizedAttributes order).lookup name := by
  cases asks : (normalizedAttributes order).lookup name with
  | some value =>
    obtain ⟨spelling, found, own⟩ := lookup_normalizedAttributes_cases asks
    have member : ⟨spelling, value⟩ ∈ order.entries := AList.mem_lookup_iff.mp found
    have stays : state.2.lookup spelling = some value := by
      cases there : state.2.lookup spelling with
      | some other => rw [← walked.rest spelling other there, found]
      | none =>
        obtain ⟨fold, known, filled⟩ := walked.moved ⟨spelling, value⟩ (List.mem_reverse.mpr member) there
        have promoted : P.find spelling ≠ none := known ▸ Option.some_ne_none fold
        apply absurd unset
        rw [← own, named _ member fold known]
        exact filled (given _ member promoted)
    rw [normalizedAttributes_eq_fill, ← own]
    refine @lookup_fill _ _ _ _ _ normalizeAttrKey (fun _ value => value) _ ∅ ⟨spelling, value⟩
      (AList.mem_lookup_iff.mp stays) fun other inside taken => ?_
    have source := AList.mem_lookup_iff.mp (walked.rest _ _ (AList.mem_lookup_iff.mpr inside))
    exact alike other source ⟨spelling, value⟩ member (taken.trans own) own
  | none =>
    by_contra present
    obtain ⟨value, asks'⟩ := Option.ne_none_iff_exists'.mp present
    obtain ⟨spelling, there, own⟩ := lookup_normalizedAttributes_cases asks'
    have member := AList.mem_lookup_iff.mp (walked.rest spelling value there)
    have still : (normalizedAttributes order).lookup (normalizeAttrKey spelling) ≠ none := by
      rw [normalizedAttributes_eq_fill]
      exact lookup_fill_ne_none member
    exact still (own ▸ asks)

theorem asked_of_walked (walked : P.Walked first order order.entries.reverse state)
    (unmixed : ∀ one ∈ order.entries, ∀ two ∈ order.entries, normalizeAttrKey one.1 = normalizeAttrKey two.1 →
      one.2 = two.2 ∨ P.text first (normalizeAttrKey one.1) ≠ none)
    (named : ∀ entry ∈ order.entries, ∀ fold, P.find entry.1 = some fold → normalizeAttrKey entry.1 = ownKey fold)
    (given : ∀ entry ∈ order.entries, P.find entry.1 ≠ none → entry.2 ≠ "") (name : String) :
    Option.Rel (SameText P.numeric name) (asked P (first, order) name) (asked P state name) := by
  unfold asked
  cases before : P.text first name with
  | some text =>
    rw [walked.kept name text before, Option.some_or, Option.some_or]
    exact .some (.inl rfl)
  | none =>
    have alike : ∀ one ∈ order.entries, ∀ two ∈ order.entries, normalizeAttrKey one.1 = name → normalizeAttrKey two.1 = name →
        one.2 = two.2 := by
      intro one left two right own own'
      refine (unmixed one left two right (own.trans own'.symm)).resolve_right fun set => set ?_
      rw [own]
      exact before
    rw [Option.none_or]
    cases after : P.text state.1 name with
    | some text =>
      rcases walked.came name text after with start | ⟨entry, visited, fold, known, own, same⟩
      · rw [before] at start
        cases start
      · have member := List.mem_reverse.mp visited
        have key : normalizeAttrKey entry.1 = name := (named entry member fold known).trans own.symm
        have found : (normalizedAttributes order).lookup name = some entry.2 := by
          rw [normalizedAttributes_eq_fill, ← key]
          exact lookup_fill member fun other inside taken => alike other inside entry member (taken.trans key) key
        rw [found, Option.some_or]
        exact .some same
    | none =>
      rw [Option.none_or, lookup_left walked named given alike after]
      cases (normalizedAttributes order).lookup name with
      | none => exact .none
      | some value => exact .some (.inl rfl)

end Meaning

section Request

def Restates (numeric : List String) (before after : StringMap) : Prop :=
  ∀ name, Option.Rel (SameText numeric name) (before.lookup name) (after.lookup name)

theorem Restates.forward {numeric : List String} {before after : StringMap} (restates : Restates numeric before after)
    {name text : String} (asks : before.lookup name = some text) :
    ∃ same, after.lookup name = some same ∧ SameText numeric name text same := by
  have related := restates name
  rw [asks] at related
  generalize after.lookup name = now at related ⊢
  cases related with
  | some same => exact ⟨_, rfl, same⟩

theorem Restates.backward {numeric : List String} {before after : StringMap} (restates : Restates numeric before after)
    {name text : String} (asks : after.lookup name = some text) :
    ∃ same, before.lookup name = some same ∧ SameText numeric name same text := by
  have related := restates name
  rw [asks] at related
  generalize before.lookup name = was at related ⊢
  cases related with
  | some same => exact ⟨_, rfl, same⟩

theorem numericKeys_compared (spec : DefineSpec) : ∀ key ∈ spec.numericKeys, key ∈ numericAttrKeys := by
  cases spec with
  | topic spec => exact nofun
  | queue spec =>
    change ∀ key ∈ queueNumericParameters, key ∈ numericAttrKeys
    decide
  | channel spec =>
    change ∀ key ∈ channelNumericParameters, key ∈ numericAttrKeys
    decide

variable [UnicodeTables]

theorem desiredValue_of_sameText (spec : DefineSpec) {name first second : String} (lower : toLower name = name)
    (same : SameText spec.numericKeys name first second) : spec.desiredValue name first = spec.desiredValue name second := by
  rcases same with rfl | ⟨number, n, left, right⟩
  · rfl
  · cases spec with
    | queue spec => simp only [DefineSpec.desiredValue, defineParameter, lower, if_pos number, left, right]
    | topic spec => exact absurd number List.not_mem_nil
    | channel spec => simp only [DefineSpec.desiredValue, defineParameter, lower, if_pos number, left, right]

theorem matches_of_sameText {numeric : List String} (compared : ∀ key ∈ numeric, key ∈ numericAttrKeys)
    {name first second : String} (normal : normalizeAttrKey name = name) (same : SameText numeric name first second)
    (seen : String) : attributeValueMatches name first seen = attributeValueMatches name second seen := by
  rcases same with rfl | ⟨number, n, left, right⟩
  · rfl
  · have key := compared name number
    have folded := numericAttrKeys_not_caseInsensitive name key
    simp only [attributeValueMatches, normal, if_neg folded, if_pos key, normalizeNumericString_of_atoi left,
      normalizeNumericString_of_atoi right]

theorem lookup_sent (spec : DefineSpec) {attrs : StringMap} (normal : Normalized attrs) (name : String) :
    (spec.sent attrs.entries).lookup name = ((attrs.lookup name).map (spec.desiredValue name)).or
      (((∅ : ParamMap).insert attrReplace (.text mqscReplaceYes)).lookup name) := by
  rw [DefineSpec.sent, lookup_fill_or]
  congr 1
  have lower : ∀ key value, attrs.lookup key = some value → toLower key = key :=
    fun key value found => toLower_of_normal (normal key value found)
  cases found : attrs.lookup name with
  | some value =>
    have filled := @lookup_fill_entries _ _ _ _ _ toLower spec.desiredValue ∅ _ _ _ _ found fun other member same => by
      obtain ⟨own, there⟩ := Option.isSome_iff_exists.mp (AList.lookup_isSome.mpr member)
      rwa [lower other own there, lower name value found] at same
    rw [lower name value found] at filled
    exact filled
  | none =>
    refine lookup_fill_of_absent fun entry member same => ?_
    have there : attrs.lookup entry.1 = some entry.2 := AList.mem_lookup_iff.mpr member
    rw [lower _ _ there] at same
    rw [← same, there] at found
    cases found

theorem parameters_of_restates (spec : DefineSpec) {before after : StringMap} (normal : Normalized before)
    (normal' : Normalized after) (restates : Restates spec.numericKeys before after) (name : String) :
    (spec.withAttributes after).parameters.lookup name = (spec.withAttributes before).parameters.lookup name := by
  apply spec.lookup_parameters_congr
  intro key _ _
  rw [lookup_sent spec normal, lookup_sent spec normal']
  congr 1
  cases now : after.lookup (toLower key) with
  | some text =>
    obtain ⟨same, was, alike⟩ := restates.backward now
    rw [was, Option.map_some, Option.map_some, desiredValue_of_sameText spec (toLower_of_normal (normal _ _ was)) alike]
  | none =>
    cases was : before.lookup (toLower key) with
    | none => rfl
    | some text =>
      obtain ⟨same, there, -⟩ := restates.forward was
      rw [now] at there
      cases there

theorem needsUpdate_of_restates {numeric : List String} (compared : ∀ key ∈ numeric, key ∈ numericAttrKeys)
    {before after : StringMap} (normal : Normalized before) (restates : Restates numeric before after)
    (observed : StringMap) (checkKeys : List String) :
    attributesNeedUpdate after observed checkKeys = attributesNeedUpdate before observed checkKeys := by
  rw [Bool.eq_iff_iff, attributesNeedUpdate_iff, attributesNeedUpdate_iff]
  constructor
  · rintro ⟨name, text, now, checked, differs⟩
    obtain ⟨same, was, alike⟩ := restates.backward now
    refine ⟨name, same, was, checked, ?_⟩
    have own := normal name same was
    rw [own] at differs ⊢
    rwa [matches_of_sameText compared own alike]
  · rintro ⟨name, text, was, checked, differs⟩
    obtain ⟨same, now, alike⟩ := restates.forward was
    refine ⟨name, same, now, checked, ?_⟩
    have own := normal name text was
    rw [own] at differs ⊢
    rwa [← matches_of_sameText compared own alike]

end Request

section Folded

/-- A field with an enumeration as Go holds it: its text, or nothing. -/
def heldText {α : Type} (text : α → String) (value : Option α) : String := (value.map text).getD ""

theorem givenText_heldText {α : Type} {text : α → String} (filled : ∀ value, text value ≠ "") (value : Option α) :
    givenText (heldText text value) = value.map text := by
  cases value with
  | none => rfl
  | some value => exact if_pos (filled value)

def typedQueue (q : Api.QueueSpec) : TypedQueue where
  maxDepth := q.maxDepth
  description := q.description
  defPersistence := heldText DefaultPersistence.text q.defPersistence
  get := heldText AccessEnabled.text q.get
  put := heldText AccessEnabled.text q.put
  targetQueue := q.targetQueue
  xmitQueue := q.xmitQueue
  remoteQueueManager := q.remoteQueueManager

def typedTopic (topic : Api.TopicSpec) : TypedTopic where
  topicString := topic.topicString
  description := topic.description
  publish := heldText AccessEnabled.text topic.publish
  subscribe := heldText AccessEnabled.text topic.subscribe
  defPersistence := heldText DefaultPersistence.text topic.defPersistence
  publishScope := topic.publishScope
  subscribeScope := topic.subscribeScope

def typedChannel (channel : Api.ChannelSpec) : TypedChannel where
  description := channel.description
  maxMsgLength := channel.maxMsgLength
  transportType := heldText ChannelTransportType.text channel.transportType
  shareConv := channel.shareConv
  mcaUser := channel.mcaUser
  maxInstances := channel.maxInstances
  maxInstancesClient := channel.maxInstancesClient
  sslCipherSpec := channel.sslCipherSpec
  sslClientAuth := heldText ChannelSslClientAuth.text channel.sslClientAuth
  connName := channel.connName
  xmitQueue := channel.xmitQueue

theorem typedQueueFields_typedQueue (q : Api.QueueSpec) : typedQueueFields (typedQueue q) = queueFields q := by
  have access : ∀ value : AccessEnabled, value.text ≠ "" := by intro value; cases value <;> decide
  have persistence : ∀ value : DefaultPersistence, value.text ≠ "" := by intro value; cases value <;> decide
  simp only [typedQueueFields, typedQueue, queueFields, givenText_heldText access, givenText_heldText persistence]

theorem typedTopicFields_typedTopic (topic : Api.TopicSpec) : typedTopicFields (typedTopic topic) = topicFields topic := by
  have access : ∀ value : AccessEnabled, value.text ≠ "" := by intro value; cases value <;> decide
  have persistence : ∀ value : DefaultPersistence, value.text ≠ "" := by intro value; cases value <;> decide
  simp only [typedTopicFields, typedTopic, topicFields, givenText_heldText access, givenText_heldText persistence]

theorem typedChannelFields_typedChannel (channel : Api.ChannelSpec) :
    typedChannelFields (typedChannel channel) = channelFields channel := by
  have transport : ∀ value : ChannelTransportType, value.text ≠ "" := by intro value; cases value <;> decide
  have auth : ∀ value : ChannelSslClientAuth, value.text ≠ "" := by intro value; cases value <;> decide
  simp only [typedChannelFields, typedChannel, channelFields, givenText_heldText transport, givenText_heldText auth]

variable [UnicodeTables]

/-- The second resource is the first one after its attributes were folded, in whatever order the map was walked, as the
API server then takes it: the texts in its typed fields are among the values that the schema lists. -/
inductive Folded : MappedResource → MappedResource → Prop
  | queue (q folded : Api.QueueSpec) (order : StringMap) (perm : order.entries.Perm q.attributes.entries)
      (typed : foldQueueAttributesToTyped (typedQueue q) order = (typedQueue folded, folded.attributes))
      (name : folded.queueName = q.queueName) (type : folded.type = q.type) : Folded (.queue q) (.queue folded)
  | topic (topic folded : Api.TopicSpec) (order : StringMap) (perm : order.entries.Perm topic.attributes.entries)
      (typed : foldTopicAttributesToTyped (typedTopic topic) order = (typedTopic folded, folded.attributes))
      (name : folded.topicName = topic.topicName) : Folded (.topic topic) (.topic folded)
  | channel (channel folded : Api.ChannelSpec) (order : StringMap) (perm : order.entries.Perm channel.attributes.entries)
      (typed : foldChannelAttributesToTyped (typedChannel channel) order = (typedChannel folded, folded.attributes))
      (name : folded.channelName = channel.channelName) (type : folded.type = channel.type) :
      Folded (.channel channel) (.channel folded)

def MappedResource.deprecated : MappedResource → List (String × String)
  | .queue _ => deprecatedQueueAttributeFields
  | .topic _ => deprecatedTopicAttributeFields
  | .channel _ => deprecatedChannelAttributeFields

def queueLongNames : List String := ["target", "transmissionqueue", "remotemanager"]

theorem normalizeAttrKey_mem_iff {names : List String} (short : "topstr" ∉ names) (long : "topicstr" ∉ names) (key : String) :
    normalizeAttrKey key ∈ names ↔ toLower key ∈ names := by
  rw [normalizeAttrKey]
  by_cases topic : toLower key = "topicstr"
  · simp only [topic, if_true, short, long]
  · simp only [if_neg topic]

theorem queue_find_iff (key : String) :
    queuePromotion.find key ≠ none ↔ deprecatedQueueAttributeFields.lookup (normalizeAttrKey key) ≠ none := by
  rw [lookup_ne_none_iff, normalizeAttrKey_mem_iff (by decide) (by decide)]
  exact find_ne_none_iff queueTable key

theorem topic_find_iff (key : String) :
    topicPromotion.find key ≠ none ↔ deprecatedTopicAttributeFields.lookup (normalizeAttrKey key) ≠ none := by
  rw [lookup_ne_none_iff]
  exact find_ne_none_iff topicTable key

theorem channel_find_iff (key : String) :
    channelPromotion.find key ≠ none ↔ deprecatedChannelAttributeFields.lookup (normalizeAttrKey key) ≠ none := by
  rw [lookup_ne_none_iff, normalizeAttrKey_mem_iff (by decide) (by decide)]
  exact find_ne_none_iff channelTable key

theorem normalizeAttrKey_of_toLower {key name : String} (lower : toLower key = name) (other : name ≠ "topicstr") :
    normalizeAttrKey key = name := by
  rw [normalizeAttrKey]
  simp only [lower, if_neg other]

theorem queue_named {key : String} {fold : AttrFold TypedQueue} (plain : toLower key ∉ queueLongNames)
    (known : queuePromotion.find key = some fold) : normalizeAttrKey key = ownKey fold := by
  have names : ∀ fold ∈ queueFolds, ownKey fold ≠ "topicstr" ∧ ∀ k ∈ fold.keys, k = ownKey fold ∨ k ∈ queueLongNames := by
    decide
  obtain ⟨member, listed⟩ := mem_keys_of_find known
  obtain ⟨other, spelled⟩ := names fold member
  exact normalizeAttrKey_of_toLower ((spelled _ listed).resolve_right plain) other

theorem topic_named {key : String} {fold : AttrFold TypedTopic} (known : topicPromotion.find key = some fold) :
    normalizeAttrKey key = ownKey fold := by
  have names : ∀ fold ∈ topicFolds, ∀ k ∈ fold.keys, k = ownKey fold ∨ k = "topicstr" := by decide
  obtain ⟨member, listed⟩ := mem_keys_of_find known
  refine (names fold member _ listed).resolve_right ?_
  change normalizeAttrKey key ≠ "topicstr"
  rw [normalizeAttrKey]
  split
  · decide
  next other => exact other

theorem channel_named {key : String} {fold : AttrFold TypedChannel} (known : channelPromotion.find key = some fold) :
    normalizeAttrKey key = ownKey fold := by
  have names : ∀ fold ∈ channelFolds, ownKey fold ≠ "topicstr" ∧ ∀ k ∈ fold.keys, k = ownKey fold := by decide
  obtain ⟨member, listed⟩ := mem_keys_of_find known
  obtain ⟨other, spelled⟩ := names fold member
  exact normalizeAttrKey_of_toLower (spelled _ listed) other

theorem request_of_walked {σ : Type} {P : Promotion σ} {first : σ} {order : StringMap} {state : σ × StringMap}
    {before after : MappedResource} (walked : P.Walked first order order.entries.reverse state)
    (fields : P.fields first = before.fields) (fields' : P.fields state.1 = after.fields) (rest : state.2 = after.attributes)
    (numeric : P.numeric = before.desired.numericKeys)
    (frame : after.desired = before.desired.withAttributes after.desired.attributes)
    (perm : order.entries.Perm before.attributes.entries) (unmixed : before.Unmixed)
    (named : ∀ entry ∈ order.entries, ∀ fold, P.find entry.1 = some fold → normalizeAttrKey entry.1 = ownKey fold)
    (given : ∀ entry ∈ order.entries, P.find entry.1 ≠ none → entry.2 ≠ "") :
    (∀ name, after.desired.parameters.lookup name = before.desired.parameters.lookup name) ∧
    ∀ observed checkKeys, attributesNeedUpdate after.desired.attributes observed checkKeys =
      attributesNeedUpdate before.desired.attributes observed checkKeys := by
  have asks : ∀ name, (before.withAttributes order).desired.attributes.lookup name = asked P (first, order) name := by
    intro name
    rw [before.attributes_desired, lookup_withFields before.fields_names, asked, Promotion.text, fields]
  have asks' : ∀ name, after.desired.attributes.lookup name = asked P state name := by
    intro name
    have found := congrArg (AList.lookup name) (after.attributes_desired after.attributes)
    rw [after.withAttributes_self, lookup_withFields after.fields_names] at found
    rw [found, asked, Promotion.text, fields', rest]
  have untyped : ∀ name, P.text first name = none → ¬before.FieldSet name := by
    rintro name unset ⟨field, value, member, own⟩
    have names := before.fields_names
    rw [names.normal field (List.mem_map_of_mem member)] at own
    rw [Promotion.text, fields, ← own, (fieldText_eq_some_iff names.distinct).mpr member] at unset
    cases unset
  have restates : Restates before.desired.numericKeys (before.withAttributes order).desired.attributes
      after.desired.attributes := by
    intro name
    rw [asks, asks', ← numeric]
    refine asked_of_walked walked (fun one left two right same => ?_) named given name
    rcases unmixed one (perm.mem_iff.mp left) two (perm.mem_iff.mp right) same with equal | decided
    · exact .inl equal
    · exact .inr fun unset => untyped _ unset decided
  have agree := unmixed.agree perm
  constructor
  · intro name
    have walkedFirst := MappedResource.lookup_parameters_of_agree before.desired_normalized agree name
    rw [frame, ← walkedFirst]
    exact parameters_of_restates before.desired (before.withAttributes order).desired_normalized after.desired_normalized
      restates name
  · intro observed checkKeys
    rw [← MappedResource.attributesNeedUpdate_of_agree agree]
    exact needsUpdate_of_restates (numericKeys_compared _) (before.withAttributes order).desired_normalized restates observed
      checkKeys

/-- Folding changes neither the DEFINE nor what counts as drift, whatever the queue manager shows, as long as two spellings
of an attribute agree, no attribute to be moved is empty and a queue uses the names of MQSC. -/
theorem fold_keeps_request {before after : MappedResource} (folded : Folded before after) (unmixed : before.Unmixed)
    (given : ∀ entry ∈ before.attributes.entries, before.deprecated.lookup (normalizeAttrKey entry.1) ≠ none →
      entry.2 ≠ "")
    (plain : ∀ q, before = .queue q → ∀ key ∈ q.attributes.keys, toLower key ∉ queueLongNames) :
    (∀ name, after.desired.parameters.lookup name = before.desired.parameters.lookup name) ∧
    ∀ observed checkKeys, attributesNeedUpdate after.desired.attributes observed checkKeys =
      attributesNeedUpdate before.desired.attributes observed checkKeys := by
  cases folded with
  | queue q folded order perm typed name type =>
    have frame : (MappedResource.queue folded).desired =
        (MappedResource.queue q).desired.withAttributes (MappedResource.queue folded).desired.attributes := by
      simp only [MappedResource.desired, DefineSpec.withAttributes, DefineSpec.attributes, toMQQueueSpec, name, type]
    have walked := walked_queue (typedQueue q) order
    rw [typed] at walked
    refine request_of_walked walked (typedQueueFields_typedQueue q) (typedQueueFields_typedQueue folded) rfl rfl frame perm
      unmixed (fun entry member fold known => ?_) fun entry member known => ?_
    · have listed : entry.1 ∈ q.attributes.keys := List.mem_map_of_mem (perm.mem_iff.mp member)
      exact queue_named (plain q rfl entry.1 listed) known
    · exact given entry (perm.mem_iff.mp member) ((queue_find_iff entry.1).mp known)
  | topic topic folded order perm typed name =>
    have frame : (MappedResource.topic folded).desired =
        (MappedResource.topic topic).desired.withAttributes (MappedResource.topic folded).desired.attributes := by
      simp only [MappedResource.desired, DefineSpec.withAttributes, DefineSpec.attributes, toMQTopicSpec, name]
    have walked := walked_topic (typedTopic topic) order
    rw [typed] at walked
    refine request_of_walked walked (typedTopicFields_typedTopic topic) (typedTopicFields_typedTopic folded) rfl rfl frame
      perm unmixed (fun _ _ _ known => topic_named known) fun entry member known => ?_
    exact given entry (perm.mem_iff.mp member) ((topic_find_iff entry.1).mp known)
  | channel channel folded order perm typed name type =>
    have frame : (MappedResource.channel folded).desired =
        (MappedResource.channel channel).desired.withAttributes (MappedResource.channel folded).desired.attributes := by
      simp only [MappedResource.desired, DefineSpec.withAttributes, DefineSpec.attributes, toMQChannelSpec, name, type]
    have walked := walked_channel (typedChannel channel) order
    rw [typed] at walked
    refine request_of_walked walked (typedChannelFields_typedChannel channel) (typedChannelFields_typedChannel folded) rfl rfl
      frame perm unmixed (fun _ _ _ known => channel_named known) fun entry member known => ?_
    exact given entry (perm.mem_iff.mp member) ((channel_find_iff entry.1).mp known)

end Folded

section Cases

attribute [local instance] asciiTables

def promotedQueue : Api.QueueSpec := { deepQueue with maxDepth := some 5000, attributes := ∅ }

theorem folded_deepQueue : Folded (.queue deepQueue) (.queue promotedQueue) :=
  .queue deepQueue promotedQueue deepQueue.attributes (List.Perm.refl _) rfl rfl rfl

theorem fold_keeps_request_deep :
    (defineQueueParameters (toMQQueueSpec promotedQueue)).lookup "maxdepth" =
        (defineQueueParameters (toMQQueueSpec deepQueue)).lookup "maxdepth" ∧
      attributesNeedUpdate (toMQQueueSpec promotedQueue).attributes (AList.singleton "maxdepth" "5000") ["maxdepth"] =
        attributesNeedUpdate (toMQQueueSpec deepQueue).attributes (AList.singleton "maxdepth" "5000") ["maxdepth"] := by
  have unmixed : (MappedResource.queue deepQueue).Unmixed := by
    intro first left second right _
    rw [List.mem_singleton.mp left, List.mem_singleton.mp right]
    exact .inl rfl
  have given : ∀ entry ∈ (MappedResource.queue deepQueue).attributes.entries,
      (MappedResource.queue deepQueue).deprecated.lookup (normalizeAttrKey entry.1) ≠ none → entry.2 ≠ "" := by
    intro entry member _
    rw [List.mem_singleton.mp member]
    decide
  have plain : ∀ q, MappedResource.queue deepQueue = .queue q → ∀ key ∈ q.attributes.keys, toLower key ∉ queueLongNames := by
    rintro q ⟨⟩ key listed
    rw [List.mem_singleton.mp listed]
    decide
  obtain ⟨parameters, drift⟩ := fold_keeps_request folded_deepQueue unmixed given plain
  exact ⟨parameters "maxdepth", drift _ _⟩

end Cases

section Accounts

def Listed {σ : Type} (table : List (String × String)) (folds : List (AttrFold σ)) : Prop :=
  ∀ fold ∈ folds, ∀ key ∈ fold.keys, table.lookup key = table.lookup (ownKey fold) ∧ table.lookup key ≠ none

theorem queueFolds_listed : Listed deprecatedQueueAttributeFields queueFolds := by unfold Listed; decide

theorem topicFolds_listed : Listed deprecatedTopicAttributeFields topicFolds := by unfold Listed; decide

theorem channelFolds_listed : Listed deprecatedChannelAttributeFields channelFolds := by unfold Listed; decide

variable [UnicodeTables]

/-- The key is deprecated, and the warning about it points to the field of this name. -/
def Advised (table : List (String × String)) (key name : String) : Prop :=
  ∃ path, table.lookup (normalizeAttrKey key) = some path ∧ table.lookup name = some path

/-- What becomes of fields and attributes: a field that is set stays as it is and other attributes are left alone. A
deprecated one stays if its text cannot be read into the field that its warning names. Otherwise it goes, and that field
has its value, or what was there before, or the value of another spelling. -/
structure Accounted (table : List (String × String)) (numeric : List String) (before after : List TypedField × StringMap) :
    Prop where
  fields : ∀ name text, fieldText before.1 name = some text → fieldText after.1 name = some text
  rest : ∀ key value, after.2.lookup key = some value → before.2.lookup key = some value
  others : ∀ key value, before.2.lookup key = some value → table.lookup (normalizeAttrKey key) = none →
    after.2.lookup key = some value
  left : ∀ key value, after.2.lookup key = some value → table.lookup (normalizeAttrKey key) ≠ none →
    ∃ name, Advised table key name ∧ Unreadable numeric name value
  moved : ∀ key value, before.2.lookup key = some value → after.2.lookup key = none → value ≠ "" →
    ∃ name text, Advised table key name ∧ fieldText after.1 name = some text ∧
      (fieldText before.1 name = some text ∨ SameText numeric name value text ∨
        ∃ other given, other ≠ key ∧ before.2.lookup other = some given ∧ Advised table other name ∧
          SameText numeric name given text)
  came : ∀ name text, fieldText after.1 name = some text → fieldText before.1 name = some text ∨
    ∃ key value, before.2.lookup key = some value ∧ Advised table key name ∧ SameText numeric name value text

theorem accounted_of_walked {σ : Type} {P : Promotion σ} {first : σ} {attrs : StringMap} {state : σ × StringMap}
    {table : List (String × String)} (walked : P.Walked first attrs attrs.entries.reverse state)
    (known : ∀ key, P.find key ≠ none ↔ table.lookup (normalizeAttrKey key) ≠ none)
    (advised : ∀ key fold, P.find key = some fold → Advised table key (ownKey fold)) :
    Accounted table P.numeric (P.fields first, attrs) (P.fields state.1, state.2) := by
  have visited : ∀ key value, attrs.lookup key = some value → ⟨key, value⟩ ∈ attrs.entries.reverse :=
    fun key value found => List.mem_reverse.mpr (AList.mem_lookup_iff.mp found)
  refine ⟨walked.kept, walked.rest, ?_, ?_, ?_, ?_⟩
  · intro key value found other
    change state.2.lookup key = some value
    cases there : state.2.lookup key with
    | some left => rw [← walked.rest key left there, found]
    | none =>
      obtain ⟨fold, promoted, -⟩ := walked.moved _ (visited key value found) there
      exact absurd other ((known key).mp (promoted ▸ Option.some_ne_none fold))
  · intro key value there deprecated
    obtain ⟨fold, promoted⟩ := Option.ne_none_iff_exists'.mp ((known key).mpr deprecated)
    have found := visited key value (walked.rest key value there)
    exact ⟨ownKey fold, advised key fold promoted, walked.stays _ found there fold promoted⟩
  · intro key value found gone some_value
    obtain ⟨fold, promoted, filled⟩ := walked.moved _ (visited key value found) gone
    obtain ⟨text, set⟩ := Option.ne_none_iff_exists'.mp (filled some_value)
    refine ⟨ownKey fold, text, advised key fold promoted, set, ?_⟩
    rcases walked.came _ text set with start | ⟨entry, done, other, known, named, same⟩
    · exact .inl start
    · have inside := walked.inside entry done
      by_cases own : entry.1 = key
      · rw [own, found] at inside
        exact .inr (.inl (Option.some.inj inside ▸ same))
      · exact .inr (.inr ⟨entry.1, entry.2, own, inside, named ▸ advised entry.1 other known, same⟩)
  · intro name text set
    rcases walked.came name text set with start | ⟨entry, done, fold, promoted, rfl, same⟩
    · exact .inl start
    · exact .inr ⟨entry.1, entry.2, walked.inside entry done, advised entry.1 fold promoted, same⟩

theorem advised_of_find {σ : Type} {folds : FoldTable σ} {table : List (String × String)} (listed : Listed table folds.folds)
    {key : String} {fold : AttrFold σ} (promoted : folds.find key = some fold)
    (normal : normalizeAttrKey key = folds.normalize key) : Advised table key (ownKey fold) := by
  obtain ⟨member, own⟩ := mem_keys_of_find promoted
  obtain ⟨same, present⟩ := listed fold member _ own
  obtain ⟨path, found⟩ := Option.ne_none_iff_exists'.mp present
  exact ⟨path, normal ▸ found, same ▸ found⟩

/-- The fold of a queue, topic or channel, for every walk over the map. -/
theorem fold_accounts_for_all :
    (∀ (spec : TypedQueue) (attrs : StringMap), Accounted deprecatedQueueAttributeFields queueNumericParameters
      (typedQueueFields spec, attrs)
      (typedQueueFields (foldQueueAttributesToTyped spec attrs).1, (foldQueueAttributesToTyped spec attrs).2)) ∧
    (∀ (spec : TypedTopic) (attrs : StringMap), Accounted deprecatedTopicAttributeFields [] (typedTopicFields spec, attrs)
      (typedTopicFields (foldTopicAttributesToTyped spec attrs).1, (foldTopicAttributesToTyped spec attrs).2)) ∧
    (∀ (spec : TypedChannel) (attrs : StringMap), Accounted deprecatedChannelAttributeFields channelNumericParameters
      (typedChannelFields spec, attrs)
      (typedChannelFields (foldChannelAttributesToTyped spec attrs).1, (foldChannelAttributesToTyped spec attrs).2)) := by
  refine ⟨fun spec attrs => ?_, fun spec attrs => ?_, fun spec attrs => ?_⟩
  · refine accounted_of_walked (walked_queue spec attrs) queue_find_iff fun key fold promoted => ?_
    have other : ∀ fold ∈ queueFolds, "topicstr" ∉ fold.keys := by decide
    obtain ⟨member, own⟩ := mem_keys_of_find promoted
    exact advised_of_find queueFolds_listed promoted
      (normalizeAttrKey_of_toLower rfl fun topic => other fold member (topic ▸ own))
  · refine accounted_of_walked (walked_topic spec attrs) topic_find_iff fun key fold promoted => ?_
    exact advised_of_find topicFolds_listed promoted rfl
  · refine accounted_of_walked (walked_channel spec attrs) channel_find_iff fun key fold promoted => ?_
    have other : ∀ fold ∈ channelFolds, "topicstr" ∉ fold.keys := by decide
    obtain ⟨member, own⟩ := mem_keys_of_find promoted
    exact advised_of_find channelFolds_listed promoted
      (normalizeAttrKey_of_toLower rfl fun topic => other fold member (topic ▸ own))

end Accounts

end MKurator.Convergence
