import MKurator.Controller.Desired
import MKurator.Controller.Effects
import MKurator.MqRest.Client

/-! One DEFINE and the DISPLAY behind it, on a queue manager that stores the parameters as they are: no drift-checked
attribute of a queue, topic or channel differs afterwards. -/

namespace MKurator.Convergence
open MKurator.Api MKurator.MqAdmin MKurator.MqRest MKurator.Controller MKurator.Lib MKurator.Lib.Strings
open MKurator.Lib.Maps

section Values

theorem equalFold_toUpper [UnicodeTables] (value : String) (ascii : ∀ c ∈ value.toList, c.toNat < 128) :
    equalFold (trimSpace value) (trimSpace (toUpper value)) = true := by
  have upper : toUpper value = String.ofList (value.toList.map Char.toUpper) :=
    toUpper_of_plain value (List.all_eq_true.mpr fun c member => by simp [isPlain, ascii c member])
  have blank : ∀ c ∈ value.toList, isSpace c.toUpper = isSpace c := by
    intro c member
    have code := toNat_toUpper c
    have small := ascii c member
    by_cases lower : 97 ≤ c.toNat ∧ c.toNat ≤ 122
    · rw [if_pos lower] at code
      rw [isSpace_of_visible (c := c) (by omega) (by omega), isSpace_of_visible (c := c.toUpper) (by omega) (by omega)]
    · rw [char_toUpper_eq_self c (by omega)]
  have trimmed : ∀ c ∈ (trimSpace value).toList, c.toNat < 128 := by
    intro c member
    rw [trimSpace, trimBy, String.toList_ofList, List.mem_reverse] at member
    have inside := (List.dropWhile_sublist _).subset member
    exact ascii c ((List.dropWhile_sublist _).subset (List.mem_reverse.mp inside))
  rw [equalFold, beq_iff_eq, upper, trimSpace, trimSpace, trimBy_map isSpace Char.toUpper value blank, List.map_map]
  refine List.map_congr_left fun c member => ?_
  have small : c.toNat < 128 := trimmed c member
  have code := toNat_toUpper c
  have raised : c.toUpper.toNat < 128 := by split at code <;> omega
  rw [Function.comp_apply, UnicodeTables.fold_ascii c small, UnicodeTables.fold_ascii _ raised, ← Char.toNat_inj,
    toNat_toLower, toNat_toLower]
  by_cases lower : 97 ≤ c.toNat ∧ c.toNat ≤ 122
  · rw [if_pos lower] at code
    rw [code, if_neg (by omega), if_pos (by omega)]
    omega
  · rw [char_toUpper_eq_self c (by omega)]

variable [UnicodeTables]

theorem matches_defineParameter {numericKeys : List String} (numeric : ∀ key ∈ numericKeys, key ∈ numericAttrKeys)
    (other : ∀ key ∈ numericKeys, key ∉ caseInsensitiveAttrKeys) {key : String} (normal : normalizeAttrKey key = key)
    (value : String) : attributeValueMatches key value (defineParameter numericKeys key value).sprint = true := by
  unfold defineParameter
  split
  next member =>
    split
    next n read =>
      have again : atoi (toString n) = some n := by rw [atoi_toString, if_pos (atoi_range read)]
      rw [attributeValueMatches]
      simp only [normal, if_neg (other key member), if_pos (numeric key member)]
      rw [normalizeNumericString_of_atoi read, ParamValue.sprint, normalizeNumericString_of_atoi again]
      exact beq_self_eq_true _
    next => exact attributeValueMatches_self key value
  next => exact attributeValueMatches_self key value

end Values

section Stored

variable [UnicodeTables]

theorem toLower_of_normal {key : String} (normal : normalizeAttrKey key = key) : toLower key = key := by
  have lower := toLower_normalizeAttrKey key
  rwa [normal] at lower

theorem lookup_defineObjectParameters {attrs : StringMap} (normalized : Normalized attrs) (numericKeys : List String)
    {key value : String} (found : attrs.lookup key = some value) :
    (defineObjectParameters attrs numericKeys).lookup key = some (defineParameter numericKeys key value) := by
  have lower := toLower_of_normal (normalized key value found)
  have filled : (fill toLower (fun k v => defineParameter numericKeys (toLower k) v) attrs.entries
      ((∅ : ParamMap).insert attrReplace (.text mqscReplaceYes))).lookup (toLower key) =
      some (defineParameter numericKeys (toLower key) value) := by
    apply lookup_fill_entries found
    intro other member same
    obtain ⟨given, present⟩ := AList.lookup_isSome.mpr member |> Option.isSome_iff_exists.mp
    rwa [toLower_of_normal (normalized other given present), lower] at same
  rwa [lower] at filled

/-- DISPLAY of these names answers what was stored under them, each value as text. -/
def ShowsStored (resp : MqscResponse) (names : List String) (params : ParamMap) : Prop :=
  ∃ item, resp.commandResponse = [item] ∧ resp.overallFailed = false ∧
    ∀ name, item.parameters.lookup name =
      if name ∈ names then (params.lookup name).map fun value => .text value.sprint else none

theorem ShowsStored.attributes {resp : MqscResponse} {names : List String} {params : ParamMap}
    (shows_ : ShowsStored resp names params)
    (distinct : ∀ first ∈ names, ∀ second ∈ names, toLower first = toLower second → first = second) :
    ∃ attrs, resp.firstObjectAttributes = .ok attrs ∧
      (∀ name ∈ names, attrs.lookup (toLower name) = (params.lookup name).map ParamValue.sprint) ∧
      ∀ key, (∀ name ∈ names, toLower name ≠ key) → attrs.lookup key = none := by
  obtain ⟨item, single, success, shown⟩ := shows_
  have inside : ∀ entry ∈ item.parameters.entries, entry.1 ∈ names := by
    intro entry member
    have found := shown entry.1
    rw [AList.mem_lookup_iff.mpr member] at found
    by_contra outside
    rw [if_neg outside] at found
    cases found
  refine ⟨_, MqscResponse.firstObjectAttributes_single single success, ?_, ?_⟩
  · intro name member
    have here := shown name
    rw [if_pos member] at here
    cases stored : params.lookup name with
    | some value =>
      rw [stored, Option.map_some] at here
      rw [lookup_fill_entries here fun other present same => distinct other ?_ name member same]
      · rfl
      · obtain ⟨entry, listed, rfl⟩ := List.mem_map.mp present
        exact inside entry listed
    | none =>
      rw [stored, Option.map_none] at here
      rw [lookup_fill_of_absent fun entry listed same => ?_]
      · rfl
      · have twin := distinct entry.1 (inside entry listed) name member same
        rw [← twin, AList.mem_lookup_iff.mpr listed] at here
        cases here
  · intro key outside
    rw [lookup_fill_of_absent fun entry listed => outside entry.1 (inside entry listed)]
    rfl

end Stored

section Settled

variable [UnicodeTables]

theorem toLower_of_mem {keys : List String} (plain : ∀ key ∈ keys, key.toList.all isPlain = true)
    (lower : ∀ key ∈ keys, String.ofList (key.toList.map Char.toLower) = key) {key : String} (member : key ∈ keys) :
    toLower key = key := by
  rw [toLower_of_plain key (plain key member), lower key member]

theorem no_drift {desired again observed : StringMap} {checkKeys : List String} (normalized : Normalized desired)
    (agree : Agree again desired)
    (same : ∀ key value, desired.lookup key = some value → key ∈ checkKeys.map normalizeAttrKey →
      attributeValueMatches key value (observed.get key) = true) :
    attributeDriftsForKeys again observed checkKeys = [] := by
  rw [attributeDriftsForKeys_eq_nil_iff]
  intro key value entry allowed
  rw [agree key] at entry
  rw [normalized key value entry] at allowed ⊢
  exact same key value entry allowed

end Settled

section Names

def queueDisplayNames : List String :=
  queueLocalDisplayParameters ++ queueLocalDefineOnlyCandidates ++ queueAliasDisplayParameters ++
    queueRemoteDisplayParameters

theorem queueDisplayParameters_mem (type : QueueType) {key : String} (member : key ∈ queueDisplayParameters type) :
    key ∈ queueLocalDisplayParameters ∨ key ∈ queueAliasDisplayParameters ∨ key ∈ queueRemoteDisplayParameters := by
  unfold queueDisplayParameters at member
  split at member
  · exact .inr (.inl member)
  · exact .inr (.inr member)
  · exact .inl member

theorem queueDisplayParametersForGet_mem (displayable : String → Bool) (type : QueueType) {key : String}
    (member : key ∈ queueDisplayParametersForGet displayable type) : key ∈ queueDisplayNames := by
  simp only [queueDisplayNames, List.mem_append]
  unfold queueDisplayParametersForGet at member
  split at member
  · rcases queueDisplayParameters_mem type member with base | target | remote
    · exact .inl (.inl (.inl base))
    · exact .inl (.inr target)
    · exact .inr remote
  · rcases List.mem_append.mp member with base | probed
    · exact .inl (.inl (.inl base))
    · exact .inl (.inl (.inr (List.mem_of_mem_filter probed)))

theorem standIn_of_absent {name key : String} {attrs : StringMap} (absent : attrs.lookup name = none) :
    standIn name key attrs = attrs := by
  rw [standIn, absent]

theorem mqweb_name_not_displayed :
    ∀ name ∈ ["target", "remotequeue", "remotemanager", "transmissionqueue"], name ∉ queueDisplayNames := by decide

def channelDisplayNames : List String :=
  channelSvrconnDisplayParameters ++ channelSdrDisplayParameters ++ channelRcvrDisplayParameters

theorem channelDisplayParametersForType_mem (type : ChannelType) {key : String}
    (member : key ∈ channelDisplayParametersForType type) : key ∈ channelDisplayNames := by
  simp only [channelDisplayNames, List.mem_append]
  unfold channelDisplayParametersForType at member
  split at member
  · exact .inl (.inr member)
  · exact .inr member
  · exact .inl (.inl member)

theorem normalizeQueueAttributes_of_mqsc {attrs : StringMap} (type : QueueType)
    (quiet : ∀ name ∈ ["target", "remotequeue", "remotemanager", "transmissionqueue"], attrs.lookup name = none) :
    normalizeQueueAttributes attrs type = attrs := by
  unfold normalizeQueueAttributes
  split
  · exact standIn_of_absent (quiet "target" (by simp))
  · rw [standIn_of_absent (quiet "remotequeue" (by simp)), standIn_of_absent (quiet "remotemanager" (by simp)),
      standIn_of_absent (quiet "transmissionqueue" (by simp))]
  · rfl

end Names

section Queue

variable [UnicodeTables]

theorem toLower_queueDisplayName {key : String} (member : key ∈ queueDisplayNames) : toLower key = key :=
  toLower_of_mem (by decide) (by decide) member

theorem queue_settles (displayable : String → Bool) (q : Api.QueueSpec) {again : StringMap}
    (agree : Agree again (toMQQueueSpec q).attributes) {resp : MqscResponse}
    (shown : ShowsStored resp (queueDisplayParametersForGet displayable q.type) (defineQueueParameters (toMQQueueSpec q))) :
    ∃ attrs, resp.firstObjectAttributes = .ok attrs ∧
      attributeDriftsForKeys again (normalizeQueueAttributes attrs q.type)
        (queueDisplayParametersForGet displayable q.type) = [] := by
  have lower : ∀ key ∈ queueDisplayParametersForGet displayable q.type, toLower key = key :=
    fun key member => toLower_queueDisplayName (queueDisplayParametersForGet_mem displayable q.type member)
  obtain ⟨attrs, decoded, stored, absent⟩ := shown.attributes fun first one second two same => by
    rwa [lower first one, lower second two] at same
  refine ⟨attrs, decoded, ?_⟩
  have quiet : ∀ name ∈ ["target", "remotequeue", "remotemanager", "transmissionqueue"], attrs.lookup name = none := by
    intro name foreign
    apply absent
    intro key member same
    rw [lower key member] at same
    have known := queueDisplayParametersForGet_mem displayable q.type member
    rw [same] at known
    exact mqweb_name_not_displayed name foreign known
  rw [normalizeQueueAttributes_of_mqsc q.type quiet]
  apply no_drift (toMQQueueSpec_normalized q) agree
  intro key value entry allowed
  obtain ⟨name, member, same⟩ := List.mem_map.mp allowed
  have other : name ≠ "topicstr" := by
    rintro rfl
    exact absurd (queueDisplayParametersForGet_mem displayable q.type member) (by decide)
  rw [normalizeAttrKey_of_lower (lower name member) other] at same
  subst same
  have found := stored name member
  rw [lower name member, defineQueueParameters,
    lookup_defineObjectParameters (toMQQueueSpec_normalized q) queueNumericParameters entry] at found
  rw [StringMap.get, found]
  exact matches_defineParameter (by decide) (by decide) (toMQQueueSpec_normalized q name value entry) value

end Queue

section Channel

variable [UnicodeTables]

theorem channel_settles (channel : Api.ChannelSpec) {again : StringMap}
    (agree : Agree again (toMQChannelSpec channel).attributes) {resp : MqscResponse}
    (shown : ShowsStored resp (channelDisplayParametersForType (toMQChannelSpec channel).type)
      (defineChannelParameters (toMQChannelSpec channel))) :
    ∃ attrs, resp.firstObjectAttributes = .ok attrs ∧
      attributeDriftsForKeys again attrs (channelDisplayParametersForType (toMQChannelSpec channel).type) = [] := by
  have known : ∀ key ∈ channelDisplayParametersForType (toMQChannelSpec channel).type, key ∈ channelDisplayNames :=
    fun key member => channelDisplayParametersForType_mem _ member
  have lower : ∀ key ∈ channelDisplayParametersForType (toMQChannelSpec channel).type, toLower key = key :=
    fun key member => toLower_of_mem (by decide) (by decide) (known key member)
  obtain ⟨attrs, decoded, stored, -⟩ := shown.attributes fun first one second two same => by
    rwa [lower first one, lower second two] at same
  refine ⟨attrs, decoded, ?_⟩
  apply no_drift (toMQChannelSpec_normalized channel) agree
  intro key value entry allowed
  obtain ⟨name, member, same⟩ := List.mem_map.mp allowed
  have other : name ≠ "topicstr" ∧ name ≠ "chltype" :=
    ⟨fun named => absurd (known name member) (by rw [named]; decide),
      fun named => absurd (known name member) (by rw [named]; decide)⟩
  rw [normalizeAttrKey_of_lower (lower name member) other.1] at same
  subst same
  have sent : (defineChannelParameters (toMQChannelSpec channel)).lookup name =
      some (defineParameter channelNumericParameters name value) := by
    unfold defineChannelParameters
    simp only
    split
    · rw [AList.lookup_insert_ne other.2]
      exact lookup_defineObjectParameters (toMQChannelSpec_normalized channel) _ entry
    · exact lookup_defineObjectParameters (toMQChannelSpec_normalized channel) _ entry
  have found := stored name member
  rw [lower name member, sent] at found
  rw [StringMap.get, found]
  exact matches_defineParameter (by decide) (by decide) (toMQChannelSpec_normalized channel name value entry) value

end Channel

section Topic

def renamed (params : ParamMap) : ParamMap :=
  match params.lookup "topstr" with
  | some v => (params.insert "topicStr" v).erase "topstr"
  | none => params

theorem lookup_renamed_topicStr {params : ParamMap} {v : ParamValue} (present : params.lookup "topstr" = some v) :
    (renamed params).lookup "topicStr" = some v := by
  rw [renamed, present]
  simp only
  rw [AList.lookup_erase_ne (by decide), AList.lookup_insert]

theorem lookup_renamed_ne (params : ParamMap) {other : String} (apart : other ≠ "topstr" ∧ other ≠ "topicStr") :
    (renamed params).lookup other = params.lookup other := by
  unfold renamed
  split
  · rw [AList.lookup_erase_ne apart.1, AList.lookup_insert_ne apart.2]
  · rfl

theorem topicDisplay_distinct : ∀ first ∈ topicDisplayParameters, ∀ second ∈ topicDisplayParameters,
    String.ofList (first.toList.map Char.toLower) = String.ofList (second.toList.map Char.toLower) → first = second := by
  decide

theorem topicOther_not_access :
    ∀ name ∈ ["topstr", "descr", "defpsist", "pubscope", "subscope"], name ∉ ["pub", "sub"] := by decide

theorem topicKey_kinds : ∀ key ∈ ["descr", "pub", "sub", "defpsist", "pubscope", "subscope"],
    String.ofList (key.toList.map Char.toLower) = key ∧ key ≠ "topstr" ∧
      ((key ∈ ["pub", "sub"] ∧ key ∈ caseInsensitiveAttrKeys) ∨ key ∈ ["descr", "defpsist", "pubscope", "subscope"]) := by
  decide

variable [UnicodeTables]

def raised (params : ParamMap) (key : String) : ParamMap :=
  match params.lookup key with
  | some v => params.insert key (.text (toUpper v.sprint))
  | none => params

theorem lookup_raised {params : ParamMap} {key : String} {v : ParamValue} (present : params.lookup key = some v) :
    (raised params key).lookup key = some (.text (toUpper v.sprint)) := by
  rw [raised, present]
  exact AList.lookup_insert _

theorem lookup_raised_none {params : ParamMap} {key other : String} (missing : params.lookup other = none) :
    (raised params key).lookup other = none := by
  by_cases here : other = key
  · rw [← here, raised, missing]
    exact missing
  · rw [raised]
    split
    · rw [AList.lookup_insert_ne here, missing]
    · exact missing

theorem lookup_raised_ne (params : ParamMap) {key other : String} (apart : other ≠ key) :
    (raised params key).lookup other = params.lookup other := by
  unfold raised
  split
  · exact AList.lookup_insert_ne apart
  · rfl

theorem mapTopicRESTParameters_eq (params : ParamMap) :
    mapTopicRESTParameters params = raised (raised (renamed params) "pub") "sub" := rfl

theorem lookup_mapTopic_text {params : ParamMap} {key : String} (plain : key ∈ ["descr", "defpsist", "pubscope", "subscope"]) :
    (mapTopicRESTParameters params).lookup key = params.lookup key := by
  have apart : key ≠ "sub" ∧ key ≠ "pub" ∧ key ≠ "topstr" ∧ key ≠ "topicStr" := by
    revert key
    decide
  rw [mapTopicRESTParameters_eq, lookup_raised_ne _ apart.1, lookup_raised_ne _ apart.2.1,
    lookup_renamed_ne params apart.2.2]

theorem lookup_mapTopic_access {params : ParamMap} {key : String} {v : ParamValue} (access : key ∈ ["pub", "sub"])
    (present : params.lookup key = some v) :
    (mapTopicRESTParameters params).lookup key = some (.text (toUpper v.sprint)) := by
  rw [mapTopicRESTParameters_eq]
  rcases List.mem_cons.mp access with rfl | last
  · rw [lookup_raised_ne _ (by decide)]
    exact lookup_raised ((lookup_renamed_ne params (by decide)).trans present)
  · obtain rfl := List.mem_singleton.mp last
    apply lookup_raised
    rw [lookup_raised_ne _ (by decide), lookup_renamed_ne params (by decide), present]

theorem lookup_mapTopic_topicStr {params : ParamMap} {v : ParamValue} (present : params.lookup "topstr" = some v) :
    (mapTopicRESTParameters params).lookup "topicStr" = some v := by
  rw [mapTopicRESTParameters_eq, lookup_raised_ne _ (by decide), lookup_raised_ne _ (by decide)]
  exact lookup_renamed_topicStr present

theorem toLower_topicDisplay {name : String} (member : name ∈ topicDisplayParameters) :
    toLower name = String.ofList (name.toList.map Char.toLower) :=
  toLower_of_plain name (by revert name; decide)

theorem get_normalizeTopicAttributes_ne (attrs : StringMap) {key : String} (apart : key ≠ "topstr") :
    (normalizeTopicAttributes attrs).get key = attrs.get key := by
  unfold normalizeTopicAttributes
  split
  · rw [StringMap.get, AList.lookup_insert_ne apart, StringMap.get]
  · rfl

theorem topicCheckKeys : topicDisplayParameters.map normalizeAttrKey =
    ["topstr", "descr", "pub", "sub", "defpsist", "pubscope", "subscope"] := by
  have topic : normalizeAttrKey "topicStr" = "topstr" := if_pos (toLower_of_plain "topicStr" (by decide))
  have others : ∀ key ∈ ["descr", "pub", "sub", "defpsist", "pubscope", "subscope"], normalizeAttrKey key = key :=
    fun key member => normalizeAttrKey_literal (by revert key; decide) (by revert key; decide) (by revert key; decide)
  rw [topicDisplayParameters, List.map_cons, topic, List.map_congr_left others, List.map_id']

/-- The values of PUB and SUB that the attribute map sets are ASCII. -/
def AsciiAccess (attributes : StringMap) : Prop :=
  ∀ spelling value, attributes.lookup spelling = some value → normalizeAttrKey spelling ∈ ["pub", "sub"] →
    ∀ c ∈ value.toList, c.toNat < 128

theorem topic_access_ascii {topic : Api.TopicSpec} (ascii : AsciiAccess topic.attributes) {key value : String}
    (access : key ∈ ["pub", "sub"]) (found : (toMQTopicSpec topic).attributes.lookup key = some value) :
    ∀ c ∈ value.toList, c.toNat < 128 := by
  rw [attributes_toMQTopicSpec] at found
  rcases lookup_withFields_cases found with ⟨field, member, same, given⟩ | inMap
  · have enabled : ∀ choice : Option AccessEnabled, choice.map AccessEnabled.text = some value →
        ∀ c ∈ value.toList, c.toNat < 128 := by
      intro choice text
      cases choice with
      | none => cases text
      | some choice =>
        cases text
        cases choice with
        | enabled => exact ascii_of_all rfl
        | disabled => exact ascii_of_all rfl
    rw [(topicFields_names topic).normal field.1 (List.mem_map_of_mem member)] at same
    simp only [topicFields, List.mem_cons, List.not_mem_nil, or_false] at member
    have other : ∀ name ∈ ["topstr", "descr", "defpsist", "pubscope", "subscope"], name ≠ key := by
      intro name listed named
      exact absurd (named ▸ access) (topicOther_not_access name listed)
    rcases member with rfl | rfl | rfl | rfl | rfl | rfl | rfl
    · exact absurd same (other _ (by simp))
    · exact absurd same (other _ (by simp))
    · exact enabled _ given
    · exact enabled _ given
    · exact absurd same (other _ (by simp))
    · exact absurd same (other _ (by simp))
    · exact absurd same (other _ (by simp))
  · obtain ⟨spelling, listed, same⟩ := lookup_normalizedAttributes_cases inMap
    exact ascii spelling value listed (same ▸ access)

theorem topic_settles (topic : Api.TopicSpec) (ascii : AsciiAccess topic.attributes) {again : StringMap}
    (agree : Agree again (toMQTopicSpec topic).attributes) {resp : MqscResponse}
    (shown : ShowsStored resp topicDisplayParameters (defineTopicParameters (toMQTopicSpec topic))) :
    ∃ attrs, resp.firstObjectAttributes = .ok attrs ∧
      attributeDriftsForKeys again (normalizeTopicAttributes attrs) topicDisplayParameters = [] := by
  obtain ⟨attrs, decoded, stored, -⟩ := shown.attributes fun first one second two same => by
    rw [toLower_topicDisplay one, toLower_topicDisplay two] at same
    exact topicDisplay_distinct first one second two same
  refine ⟨attrs, decoded, ?_⟩
  apply no_drift (toMQTopicSpec_normalized topic) agree
  intro key value entry allowed
  have sent := lookup_defineObjectParameters (toMQTopicSpec_normalized topic) [] entry
  have text : defineParameter [] key value = .text value := if_neg (List.not_mem_nil)
  rw [text] at sent
  rw [topicCheckKeys, List.mem_cons] at allowed
  rcases allowed with rfl | rest
  · have found := stored "topicStr" (by decide)
    rw [defineTopicParameters, lookup_mapTopic_topicStr sent] at found
    have kept : (normalizeTopicAttributes attrs).get "topstr" = value := by
      rw [normalizeTopicAttributes, found, Option.map_some]
      simp only [StringMap.get, AList.lookup_insert, Option.getD_some, ParamValue.sprint]
    rw [kept]
    exact attributeValueMatches_self _ value
  · have name : key ∈ topicDisplayParameters := List.mem_cons_of_mem _ rest
    obtain ⟨small, apart, kind⟩ := topicKey_kinds key rest
    have lower : toLower key = key := (toLower_topicDisplay name).trans small
    have found := stored key name
    rw [lower] at found
    rw [get_normalizeTopicAttributes_ne attrs apart, StringMap.get, found, defineTopicParameters]
    rcases kind with ⟨access, folded⟩ | plain
    · rw [lookup_mapTopic_access access sent, attributeValueMatches]
      simp only [toMQTopicSpec_normalized topic key value entry, if_pos folded]
      exact equalFold_toUpper value (topic_access_ascii ascii access entry)
    · rw [lookup_mapTopic_text plain, sent]
      exact attributeValueMatches_self _ value

end Topic

section Reconciled

variable [UnicodeTables]

theorem toMQQueueSpec_agree (q : Api.QueueSpec) (distinct : DistinctKeys q.attributes) {attributes : StringMap}
    (perm : attributes.entries.Perm q.attributes.entries) :
    Agree (toMQQueueSpec { q with attributes := attributes }).attributes (toMQQueueSpec q).attributes := by
  rw [attributes_toMQQueueSpec, attributes_toMQQueueSpec]
  exact (normalizedAttributes_agree distinct perm).withFields _

theorem toMQTopicSpec_agree (topic : Api.TopicSpec) (distinct : DistinctKeys topic.attributes) {attributes : StringMap}
    (perm : attributes.entries.Perm topic.attributes.entries) :
    Agree (toMQTopicSpec { topic with attributes := attributes }).attributes (toMQTopicSpec topic).attributes := by
  rw [attributes_toMQTopicSpec, attributes_toMQTopicSpec]
  exact (normalizedAttributes_agree distinct perm).withFields _

theorem toMQChannelSpec_agree (channel : Api.ChannelSpec) (distinct : DistinctKeys channel.attributes)
    {attributes : StringMap} (perm : attributes.entries.Perm channel.attributes.entries) :
    Agree (toMQChannelSpec { channel with attributes := attributes }).attributes (toMQChannelSpec channel).attributes := by
  rw [attributes_toMQChannelSpec, attributes_toMQChannelSpec]
  exact (normalizedAttributes_agree distinct perm).withFields _

theorem attributesNeedUpdate_of_no_drift {desired observed : StringMap} {keys : List String}
    (none : attributeDriftsForKeys desired observed keys = []) : attributesNeedUpdate desired observed keys = false := by
  rw [attributesNeedUpdate, none]
  rfl

/-- After a DEFINE that was stored as sent, DISPLAY shows no drift, and a second reconcile defines nothing. The second
pass may walk the attribute map in another order. -/
theorem define_then_display_settles :
    (∀ (displayable : String → Bool) (q : Api.QueueSpec) (attributes : StringMap) (resp : MqscResponse),
      DistinctKeys q.attributes → attributes.entries.Perm q.attributes.entries →
      ShowsStored resp (queueDisplayParametersForGet displayable q.type) (defineQueueParameters (toMQQueueSpec q)) →
      ∃ attrs, resp.firstObjectAttributes = .ok attrs ∧
        attributeDriftsForKeys (toMQQueueSpec { q with attributes := attributes }).attributes
          (normalizeQueueAttributes attrs q.type) (queueDisplayParametersForGet displayable q.type) = [] ∧
        ∀ env obj, obj.spec = { q with attributes := attributes } →
          ReadsBack queueReconciler env obj ⟨q.queueName, normalizeQueueAttributes attrs q.type⟩
            (queueDisplayParametersForGet displayable q.type) →
          ∀ spec, .define spec ∉ (reconcileWorkload queueReconciler env obj).calls) ∧
    (∀ (topic : Api.TopicSpec) (attributes : StringMap) (resp : MqscResponse),
      DistinctKeys topic.attributes → AsciiAccess topic.attributes →
      attributes.entries.Perm topic.attributes.entries →
      ShowsStored resp topicDisplayParameters (defineTopicParameters (toMQTopicSpec topic)) →
      ∃ attrs, resp.firstObjectAttributes = .ok attrs ∧
        attributeDriftsForKeys (toMQTopicSpec { topic with attributes := attributes }).attributes
          (normalizeTopicAttributes attrs) topicDisplayParameters = [] ∧
        ∀ env obj, obj.spec = { topic with attributes := attributes } →
          ReadsBack topicReconciler env obj ⟨topic.topicName, normalizeTopicAttributes attrs⟩ topicDisplayParameters →
          ∀ spec, .define spec ∉ (reconcileWorkload topicReconciler env obj).calls) ∧
    (∀ (channel : Api.ChannelSpec) (attributes : StringMap) (resp : MqscResponse),
      DistinctKeys channel.attributes → attributes.entries.Perm channel.attributes.entries →
      ShowsStored resp (channelDisplayParametersForType (toMQChannelSpec channel).type)
        (defineChannelParameters (toMQChannelSpec channel)) →
      ∃ attrs, resp.firstObjectAttributes = .ok attrs ∧
        attributeDriftsForKeys (toMQChannelSpec { channel with attributes := attributes }).attributes attrs
          (channelDisplayParametersForType (toMQChannelSpec channel).type) = [] ∧
        ∀ env obj, obj.spec = { channel with attributes := attributes } →
          ReadsBack channelReconciler env obj ⟨channel.channelName, attrs⟩
            (channelDisplayParametersForType (toMQChannelSpec channel).type) →
          ∀ spec, .define spec ∉ (reconcileWorkload channelReconciler env obj).calls) := by
  refine ⟨?_, ?_, ?_⟩
  · intro displayable q attributes resp distinct perm shown
    obtain ⟨attrs, decoded, none⟩ := queue_settles displayable q (toMQQueueSpec_agree q distinct perm) shown
    refine ⟨attrs, decoded, none, fun env obj same reads spec => ?_⟩
    apply no_define_of_readsBack queueReconciler env obj reads
    rw [same]
    exact attributesNeedUpdate_of_no_drift none
  · intro topic attributes resp distinct ascii perm shown
    obtain ⟨attrs, decoded, none⟩ := topic_settles topic ascii (toMQTopicSpec_agree topic distinct perm) shown
    refine ⟨attrs, decoded, none, fun env obj same reads spec => ?_⟩
    apply no_define_of_readsBack topicReconciler env obj reads
    rw [same]
    exact attributesNeedUpdate_of_no_drift none
  · intro channel attributes resp distinct perm shown
    obtain ⟨attrs, decoded, none⟩ := channel_settles channel (toMQChannelSpec_agree channel distinct perm) shown
    refine ⟨attrs, decoded, none, fun env obj same reads spec => ?_⟩
    apply no_define_of_readsBack channelReconciler env obj reads
    rw [same]
    exact attributesNeedUpdate_of_no_drift none

end Reconciled

section Cases

attribute [local instance] asciiTables

def displayAnswer (names : List String) (params : ParamMap) : MqscResponse where
  commandResponse := [⟨0, [], [],
    fill id (fun _ value => .text value.sprint) (params.entries.filter fun entry => entry.1 ∈ names) ∅⟩]
  overallCompletionCode := 0
  error := []

theorem displayAnswer_shows (names : List String) (params : ParamMap) :
    ShowsStored (displayAnswer names params) names params := by
  refine ⟨_, rfl, rfl, fun name => ?_⟩
  by_cases asked : name ∈ names
  · rw [if_pos asked]
    cases stored : params.lookup name with
    | some value =>
      have entry : (⟨name, value⟩ : Σ _ : String, ParamValue) ∈ params.entries.filter fun entry => entry.1 ∈ names :=
        List.mem_filter.mpr ⟨AList.mem_lookup_iff.mp stored, decide_eq_true asked⟩
      have agree : ∀ other ∈ params.entries.filter fun entry => entry.1 ∈ names, id other.1 = id name →
          JsonValue.text other.2.sprint = .text value.sprint := by
        intro other member same
        obtain ⟨key, given⟩ := other
        obtain rfl : key = name := same
        have twin := AList.mem_lookup_iff.mpr (List.mem_of_mem_filter member)
        rw [Option.mem_def, stored] at twin
        cases twin
        rfl
      exact @lookup_fill _ _ _ _ _ id (fun _ value => JsonValue.text value.sprint) _ ∅ _ entry agree
    | none =>
      refine lookup_fill_of_absent fun entry member same => ?_
      have twin := AList.mem_lookup_iff.mpr (List.mem_of_mem_filter member)
      rw [show entry.1 = name from same, Option.mem_def, stored] at twin
      cases twin
  · rw [if_neg asked]
    refine lookup_fill_of_absent fun entry member same => asked ?_
    obtain ⟨-, listed⟩ := List.mem_filter.mp member
    exact same ▸ of_decide_eq_true listed

def deepQueue : Api.QueueSpec := { (ordersQueue none).spec with attributes := AList.singleton "MaxDepth" "+5000" }

def ordersTopic : Api.TopicSpec where
  connectionRef := "qm1"
  suspend := false
  policies := ⟨none, none⟩
  topicName := "ORDERS"
  attributes := AList.singleton "TopicStr" "orders/new"
  topicString := ""
  description := ""
  publish := some .enabled
  subscribe := none
  defPersistence := none
  publishScope := ""
  subscribeScope := ""

def ordersChannel : Api.ChannelSpec where
  connectionRef := "qm1"
  suspend := false
  policies := ⟨none, none⟩
  channelName := "ORDERS.APP"
  type := .svrconn
  attributes := ∅
  description := ""
  maxMsgLength := some 4194304
  transportType := none
  shareConv := none
  mcaUser := ""
  maxInstances := none
  maxInstancesClient := none
  sslCipherSpec := ""
  sslClientAuth := none
  connName := ""
  xmitQueue := ""

theorem orders_settle :
    (∃ attrs, (displayAnswer queueLocalDisplayParameters (defineQueueParameters (toMQQueueSpec deepQueue))).firstObjectAttributes =
        .ok attrs ∧ attributeDriftsForKeys (toMQQueueSpec deepQueue).attributes attrs queueLocalDisplayParameters = []) ∧
    (∃ attrs, (displayAnswer topicDisplayParameters (defineTopicParameters (toMQTopicSpec ordersTopic))).firstObjectAttributes =
        .ok attrs ∧ attributeDriftsForKeys (toMQTopicSpec ordersTopic).attributes (normalizeTopicAttributes attrs)
          topicDisplayParameters = []) ∧
    (∃ attrs, (displayAnswer channelSvrconnDisplayParameters
          (defineChannelParameters (toMQChannelSpec ordersChannel))).firstObjectAttributes = .ok attrs ∧
        attributeDriftsForKeys (toMQChannelSpec ordersChannel).attributes attrs channelSvrconnDisplayParameters = []) := by
  obtain ⟨queues, topics, channels⟩ := define_then_display_settles
  obtain ⟨queue, decoded, settled, -⟩ := queues (fun _ => false) deepQueue deepQueue.attributes _
    (List.nodup_singleton _) (List.Perm.refl _) (displayAnswer_shows _ _)
  have ascii : AsciiAccess ordersTopic.attributes := by
    intro spelling value found access
    cases List.mem_singleton.mp (AList.mem_lookup_iff.mp found)
    exact ascii_of_all rfl
  obtain ⟨topic, decoded', settled', -⟩ := topics ordersTopic ordersTopic.attributes _
    (List.nodup_singleton _) ascii (List.Perm.refl _) (displayAnswer_shows _ _)
  obtain ⟨channel, decoded'', settled'', -⟩ := channels ordersChannel ordersChannel.attributes _
    List.nodup_nil (List.Perm.refl _) (displayAnswer_shows _ _)
  exact ⟨⟨queue, decoded, settled⟩, ⟨topic, decoded', settled'⟩, ⟨channel, decoded'', settled''⟩⟩

end Cases

end MKurator.Convergence
