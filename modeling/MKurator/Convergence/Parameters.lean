import MKurator.Convergence.Attributes

/-! What the DEFINE of a queue, topic or channel carries, whatever the order in which its attributes are copied. -/

namespace MKurator.Convergence
open MKurator.Api MKurator.MqAdmin MKurator.MqRest MKurator.Lib.Strings MKurator.Lib.Maps

inductive DefineSpec where
  | queue (spec : MqAdmin.QueueSpec)
  | topic (spec : MqAdmin.TopicSpec)
  | channel (spec : MqAdmin.ChannelSpec)

namespace DefineSpec

def attributes : DefineSpec → StringMap
  | .queue spec => spec.attributes
  | .topic spec => spec.attributes
  | .channel spec => spec.attributes

def withAttributes : DefineSpec → StringMap → DefineSpec
  | .queue spec, attributes => .queue { spec with attributes }
  | .topic spec, attributes => .topic { spec with attributes }
  | .channel spec, attributes => .channel { spec with attributes }

def numericKeys : DefineSpec → List String
  | .queue _ => queueNumericParameters
  | .topic _ => []
  | .channel _ => channelNumericParameters

def controls : DefineSpec → List (String × ParamValue)
  | .channel spec =>
    [(attrReplace, .text mqscReplaceYes), ("chltype", .text (normalizeChannelType spec.type).text)]
  | _ => [(attrReplace, .text mqscReplaceYes)]

@[simp] theorem attributes_withAttributes (spec : DefineSpec) (attributes : StringMap) :
    (spec.withAttributes attributes).attributes = attributes := by
  cases spec <;> rfl

@[simp] theorem controls_withAttributes (spec : DefineSpec) (attributes : StringMap) :
    (spec.withAttributes attributes).controls = spec.controls := by
  cases spec <;> rfl

theorem withAttributes_attributes (spec : DefineSpec) : spec.withAttributes spec.attributes = spec := by
  cases spec <;> rfl

theorem replace_mem_controls (spec : DefineSpec) : (attrReplace, .text mqscReplaceYes) ∈ spec.controls := by
  cases spec <;> exact List.mem_cons_self ..

section Case

variable [UnicodeTables]

def parameters : DefineSpec → ParamMap
  | .queue spec => defineQueueParameters spec
  | .topic spec => defineTopicParameters spec
  | .channel spec => defineChannelParameters spec

def mqwebName : DefineSpec → String → String
  | .topic _, key => if toLower key = "topstr" then "topicStr" else toLower key
  | _, key => toLower key

/-- The value that an attribute is to have: a number where the key takes one, upper case for access to a topic. -/
def desiredValue : DefineSpec → String → String → ParamValue
  | .topic _, key, value => .text (if toLower key ∈ ["pub", "sub"] then toUpper value else value)
  | spec, key, value => defineParameter spec.numericKeys (toLower key) value

/-- The operator's own parameter is written over the attribute of this key. -/
def Overwritten : DefineSpec → String → Prop
  | .channel spec, key => spec.type ≠ .unset ∧ toLower key = "chltype"
  | _, _ => False

@[simp] theorem mqwebName_withAttributes (spec : DefineSpec) (attributes : StringMap) :
    (spec.withAttributes attributes).mqwebName = spec.mqwebName := by
  cases spec <;> rfl

@[simp] theorem desiredValue_withAttributes (spec : DefineSpec) (attributes : StringMap) :
    (spec.withAttributes attributes).desiredValue = spec.desiredValue := by
  cases spec <;> rfl

@[simp] theorem overwritten_withAttributes (spec : DefineSpec) (attributes : StringMap) :
    (spec.withAttributes attributes).Overwritten = spec.Overwritten := by
  cases spec <;> rfl

def sent (spec : DefineSpec) (entries : List (Σ _ : String, String)) : ParamMap :=
  fill toLower spec.desiredValue entries ((∅ : ParamMap).insert attrReplace (.text mqscReplaceYes))

theorem mqwebName_congr (spec : DefineSpec) {first second : String} (same : toLower first = toLower second) :
    spec.mqwebName first = spec.mqwebName second := by
  cases spec <;> simp only [mqwebName, same]

theorem desiredValue_congr (spec : DefineSpec) {first second : String} (same : toLower first = toLower second)
    (value : String) : spec.desiredValue first value = spec.desiredValue second value := by
  cases spec <;> simp only [desiredValue, same]

theorem overwritten_congr (spec : DefineSpec) {first second : String} (same : toLower first = toLower second) :
    spec.Overwritten first ↔ spec.Overwritten second := by
  cases spec <;> simp only [Overwritten, same]

def finish (name : String) (value : ParamValue) : ParamValue :=
  if name ∈ ["pub", "sub"] then .text (toUpper value.sprint) else value

theorem lookup_topic_sent (spec : MqAdmin.TopicSpec) (name : String) :
    ((DefineSpec.topic spec).sent spec.attributes.entries).lookup name =
      ((defineObjectParameters spec.attributes []).lookup name).map (finish name) := by
  have desired : (DefineSpec.topic spec).desiredValue =
      fun key value => finish (toLower key) (defineParameter [] (toLower key) value) := by
    funext key value
    rw [finish, defineParameter, if_neg List.not_mem_nil]
    simp only [desiredValue, ParamValue.sprint]
    split <;> rfl
  rw [sent, desired]
  apply lookup_fill_map
  intro key
  by_cases here : key = attrReplace
  · rw [here, AList.lookup_insert]
    rfl
  · rw [AList.lookup_insert_ne here, AList.lookup_empty]
    rfl

theorem toLower_ne_topicStr (key : String) : toLower key ≠ "topicStr" := by
  intro same
  have again := toLower_toLower key
  rw [same, toLower_of_plain "topicStr" (by decide)] at again
  exact absurd again (by decide)

theorem defineObjectParameters_eq_fill (attrs : StringMap) (numericKeys : List String) :
    defineObjectParameters attrs numericKeys =
      fill toLower (fun key value => defineParameter numericKeys (toLower key) value) attrs.entries
        ((∅ : ParamMap).insert attrReplace (.text mqscReplaceYes)) := rfl

theorem lookup_copied_topicStr (attrs : StringMap) : (defineObjectParameters attrs []).lookup "topicStr" = none := by
  cases found : (defineObjectParameters attrs []).lookup "topicStr" with
  | none => rfl
  | some value =>
    rw [defineObjectParameters_eq_fill] at found
    rcases lookup_fill_cases found with replaced | ⟨entry, -, name, -⟩
    · rw [AList.lookup_insert_ne (by decide)] at replaced
      cases replaced
    · exact absurd name (toLower_ne_topicStr entry.1)

theorem lookup_mapTopic_missing {params : ParamMap} (other : params.lookup "topicStr" = none)
    (missing : params.lookup "topstr" = none) : (mapTopicRESTParameters params).lookup "topicStr" = none := by
  rw [mapTopicRESTParameters_eq, lookup_raised_ne _ (by decide), lookup_raised_ne _ (by decide), renamed, missing]
  exact other

theorem lookup_mapTopic_other {params : ParamMap} {name : String} (access : name ∉ ["pub", "sub"])
    (apart : name ≠ "topstr" ∧ name ≠ "topicStr") : (mapTopicRESTParameters params).lookup name = params.lookup name := by
  rw [List.mem_cons, List.mem_singleton, not_or] at access
  rw [mapTopicRESTParameters_eq, lookup_raised_ne _ access.2, lookup_raised_ne _ access.1, lookup_renamed_ne params apart]

theorem lookup_mapTopic_access_none {params : ParamMap} {name : String} (access : name ∈ ["pub", "sub"])
    (missing : params.lookup name = none) : (mapTopicRESTParameters params).lookup name = none := by
  have apart : name ≠ "topstr" ∧ name ≠ "topicStr" := by
    clear missing
    revert name
    decide
  have kept : (renamed params).lookup name = none := (lookup_renamed_ne params apart).trans missing
  have pub : (raised (renamed params) "pub").lookup name = none := lookup_raised_none kept
  rw [mapTopicRESTParameters_eq]
  exact lookup_raised_none pub

theorem lookup_parameters (spec : DefineSpec) {key : String} (own : ¬spec.Overwritten key) :
    spec.parameters.lookup (spec.mqwebName key) = (spec.sent spec.attributes.entries).lookup (toLower key) := by
  cases spec with
  | queue spec => rfl
  | channel spec =>
    change (defineChannelParameters spec).lookup (toLower key) =
      (defineObjectParameters spec.attributes channelNumericParameters).lookup (toLower key)
    rw [defineChannelParameters]
    by_cases typed : spec.type = .unset
    · rw [if_neg (not_not_intro typed)]
    · rw [if_pos typed, AList.lookup_insert_ne fun same => own ⟨typed, same⟩]
  | topic spec =>
    rw [attributes, lookup_topic_sent]
    change (mapTopicRESTParameters (defineObjectParameters spec.attributes [])).lookup
      (if toLower key = "topstr" then "topicStr" else toLower key) = _
    generalize toLower_ne_topicStr key = lower
    revert lower
    generalize toLower key = name
    intro lower
    by_cases topic : name = "topstr"
    · rw [if_pos topic, topic]
      cases given : (defineObjectParameters spec.attributes []).lookup "topstr" with
      | none => exact lookup_mapTopic_missing (lookup_copied_topicStr _) given
      | some value => exact lookup_mapTopic_topicStr given
    · rw [if_neg topic]
      by_cases access : name ∈ ["pub", "sub"]
      · cases given : (defineObjectParameters spec.attributes []).lookup name with
        | none => exact lookup_mapTopic_access_none access given
        | some value =>
          rw [lookup_mapTopic_access access given, Option.map_some, finish, if_pos access]
      · have plain : finish name = id := by
          funext value
          exact if_neg access
        rw [lookup_mapTopic_other access ⟨topic, lower⟩, plain, Option.map_id, id]

theorem toLower_replace : toLower attrReplace = attrReplace := (toLower_of_plain _ (by decide)).trans (by decide)

theorem toLower_chltype : toLower "chltype" = "chltype" := (toLower_of_plain _ (by decide)).trans (by decide)

theorem sent_withAttributes (spec : DefineSpec) (attributes : StringMap) (entries : List (Σ _ : String, String)) :
    (spec.withAttributes attributes).sent entries = spec.sent entries := by
  rw [sent, sent, desiredValue_withAttributes]

theorem not_overwritten_of_not_control {spec : DefineSpec} {key : String}
    (other : toLower key ∉ spec.controls.map Prod.fst) : ¬spec.Overwritten key := by
  cases spec with
  | queue spec => exact id
  | topic spec => exact id
  | channel spec =>
    rintro ⟨-, type⟩
    exact other (type ▸ List.mem_cons_of_mem _ (List.mem_singleton.mpr rfl))

theorem own_replace (spec : DefineSpec) : ¬spec.Overwritten attrReplace := by
  cases spec with
  | channel spec =>
    rintro ⟨-, same⟩
    rw [toLower_replace] at same
    exact absurd same (by decide)
  | queue spec => exact id
  | topic spec => exact id

theorem mqwebName_replace (spec : DefineSpec) : spec.mqwebName attrReplace = attrReplace := by
  cases spec with
  | topic spec => rw [mqwebName, toLower_replace, if_neg (by decide)]
  | queue spec => exact toLower_replace
  | channel spec => exact toLower_replace

theorem lookup_replace (spec : DefineSpec) :
    spec.parameters.lookup attrReplace = (spec.sent spec.attributes.entries).lookup attrReplace := by
  have found := spec.lookup_parameters spec.own_replace
  rwa [mqwebName_replace, toLower_replace] at found

theorem lookup_mapTopic_topstr (params : ParamMap) : (mapTopicRESTParameters params).lookup "topstr" = none := by
  have gone : (renamed params).lookup "topstr" = none := by
    rw [renamed]
    cases given : params.lookup "topstr" with
    | none => exact given
    | some value => exact AList.lookup_erase _ _
  rw [mapTopicRESTParameters_eq]
  exact lookup_raised_none (lookup_raised_none gone)

theorem copied_cases {attrs : StringMap} {numericKeys : List String} {name : String}
    (present : (defineObjectParameters attrs numericKeys).lookup name ≠ none) :
    name = attrReplace ∨ ∃ entry ∈ attrs.entries, toLower entry.1 = name := by
  obtain ⟨value, found⟩ := Option.ne_none_iff_exists'.mp present
  rw [defineObjectParameters_eq_fill] at found
  rcases lookup_fill_cases found with replaced | ⟨entry, member, same, -⟩
  · by_cases here : name = attrReplace
    · exact .inl here
    · rw [AList.lookup_insert_ne here] at replaced
      cases replaced
  · exact .inr ⟨entry, member, same⟩

theorem parameters_cases (spec : DefineSpec) {name : String} (present : spec.parameters.lookup name ≠ none) :
    name ∈ spec.controls.map Prod.fst ∨
      ∃ entry ∈ spec.attributes.entries, toLower entry.1 ∉ spec.controls.map Prod.fst ∧ spec.mqwebName entry.1 = name := by
  by_cases control : name ∈ spec.controls.map Prod.fst
  · exact .inl control
  · have replaces : name ≠ attrReplace := fun same => control (same ▸ List.mem_map_of_mem spec.replace_mem_controls)
    refine .inr ?_
    cases spec with
    | queue spec =>
      obtain ⟨entry, member, rfl⟩ := (copied_cases present).resolve_left replaces
      exact ⟨entry, member, control, rfl⟩
    | channel spec =>
      have typed : name ≠ "chltype" := fun same => control (same ▸ List.mem_cons_of_mem _ (List.mem_singleton.mpr rfl))
      have copied : (defineObjectParameters spec.attributes channelNumericParameters).lookup name ≠ none := by
        rw [parameters, defineChannelParameters] at present
        split at present
        · rwa [AList.lookup_insert_ne typed] at present
        · exact present
      obtain ⟨entry, member, rfl⟩ := (copied_cases copied).resolve_left replaces
      exact ⟨entry, member, control, rfl⟩
    | topic spec =>
      change (mapTopicRESTParameters (defineObjectParameters spec.attributes [])).lookup name ≠ none at present
      by_cases renamed_topic : name = "topicStr"
      · have copied : (defineObjectParameters spec.attributes []).lookup "topstr" ≠ none := by
          intro missing
          rw [renamed_topic] at present
          exact present (lookup_mapTopic_missing (lookup_copied_topicStr _) missing)
        obtain ⟨entry, member, same⟩ := (copied_cases copied).resolve_left (by decide)
        refine ⟨entry, member, same ▸ (by decide : "topstr" ∉ [attrReplace]), ?_⟩
        rw [mqwebName, if_pos same, renamed_topic]
      · have topic : name ≠ "topstr" := by
          rintro rfl
          exact present (lookup_mapTopic_topstr _)
        have copied : (defineObjectParameters spec.attributes []).lookup name ≠ none := by
          intro missing
          by_cases access : name ∈ ["pub", "sub"]
          · exact present (lookup_mapTopic_access_none access missing)
          · exact present ((lookup_mapTopic_other access ⟨topic, renamed_topic⟩).trans missing)
        obtain ⟨entry, member, rfl⟩ := (copied_cases copied).resolve_left replaces
        exact ⟨entry, member, control, if_neg topic⟩

theorem lookup_chltype_set {spec : MqAdmin.ChannelSpec} (given : spec.type ≠ .unset) :
    (defineChannelParameters spec).lookup "chltype" = some (.text (normalizeChannelType spec.type).text) := by
  rw [defineChannelParameters, if_pos given]
  exact AList.lookup_insert _

theorem lookup_mqwebName_ne_none (spec : DefineSpec) {entry : Σ _ : String, String}
    (member : entry ∈ spec.attributes.entries) : spec.parameters.lookup (spec.mqwebName entry.1) ≠ none := by
  by_cases own : spec.Overwritten entry.1
  · cases spec with
    | queue spec => exact absurd own id
    | topic spec => exact absurd own id
    | channel spec =>
      obtain ⟨given, name⟩ := own
      change (defineChannelParameters spec).lookup (toLower entry.1) ≠ none
      rw [name, lookup_chltype_set given]
      exact Option.some_ne_none _
  · rw [lookup_parameters spec own]
    exact lookup_fill_ne_none member

theorem lookup_outside {spec : DefineSpec} {name : String} (outside : ¬∃ key, spec.mqwebName key = name ∧ ¬spec.Overwritten key) :
    spec.parameters.lookup name = none ∨
      ∃ channel : MqAdmin.ChannelSpec, spec = .channel channel ∧ channel.type ≠ .unset ∧ name = "chltype" := by
  by_cases present : spec.parameters.lookup name = none
  · exact .inl present
  · rcases parameters_cases spec present with control | ⟨entry, -, other, same⟩
    · have replaces : name ≠ attrReplace := fun same => outside ⟨attrReplace, same ▸ spec.mqwebName_replace, spec.own_replace⟩
      cases spec with
      | queue spec => exact absurd (List.mem_singleton.mp control) replaces
      | topic spec => exact absurd (List.mem_singleton.mp control) replaces
      | channel spec =>
        have typed : name = "chltype" := List.mem_singleton.mp ((List.mem_cons.mp control).resolve_left replaces)
        refine .inr ⟨spec, rfl, fun unset => outside ⟨"chltype", ?_, ?_⟩, typed⟩
        · exact toLower_chltype.trans typed.symm
        · rintro ⟨given, -⟩
          exact given unset
    · exact absurd ⟨entry.1, same, not_overwritten_of_not_control other⟩ outside

theorem lookup_parameters_congr (spec : DefineSpec) {first second : StringMap} {name : String}
    (same : ∀ key, spec.mqwebName key = name → ¬spec.Overwritten key →
      (spec.sent first.entries).lookup (toLower key) = (spec.sent second.entries).lookup (toLower key)) :
    (spec.withAttributes first).parameters.lookup name = (spec.withAttributes second).parameters.lookup name := by
  by_cases inside : ∃ key, spec.mqwebName key = name ∧ ¬spec.Overwritten key
  · obtain ⟨key, rfl, own⟩ := inside
    have sides : ∀ attributes : StringMap, (spec.withAttributes attributes).parameters.lookup (spec.mqwebName key) =
        (spec.sent attributes.entries).lookup (toLower key) := by
      intro attributes
      have found := (spec.withAttributes attributes).lookup_parameters (by rwa [overwritten_withAttributes])
      rwa [mqwebName_withAttributes, attributes_withAttributes, sent_withAttributes] at found
    rw [sides first, sides second, same key rfl own]
  · have outside : ∀ attributes : StringMap, ¬∃ key, (spec.withAttributes attributes).mqwebName key = name ∧
        ¬(spec.withAttributes attributes).Overwritten key := by
      intro attributes
      rwa [mqwebName_withAttributes, overwritten_withAttributes]
    rcases lookup_outside (outside first) with none_first | ⟨channel, shape, given, rfl⟩
    · rcases lookup_outside (outside second) with none_second | ⟨channel, shape, given, rfl⟩
      · rw [none_first, none_second]
      · cases spec with
        | queue spec => cases shape
        | topic spec => cases shape
        | channel spec =>
          cases shape
          change (defineChannelParameters { spec with attributes := first }).lookup "chltype" = none at none_first
          rw [@lookup_chltype_set _ { spec with attributes := first } given] at none_first
          cases none_first
    · cases spec with
      | queue spec => cases shape
      | topic spec => cases shape
      | channel spec =>
        cases shape
        exact (@lookup_chltype_set _ { spec with attributes := first } given).trans
          (@lookup_chltype_set _ { spec with attributes := second } given).symm

/-- The operator's own parameters have their values, every other attribute has its own, and nothing else is sent. -/
structure Forwards (spec : DefineSpec) : Prop where
  controls : ∀ control ∈ spec.controls, spec.parameters.lookup control.1 = some control.2
  attributes : ∀ entry ∈ spec.attributes.entries, toLower entry.1 ∉ spec.controls.map Prod.fst →
    spec.parameters.lookup (spec.mqwebName entry.1) = some (spec.desiredValue entry.1 entry.2)
  only : ∀ name, spec.parameters.lookup name ≠ none → name ∈ spec.controls.map Prod.fst ∨
    ∃ entry ∈ spec.attributes.entries, toLower entry.1 ∉ spec.controls.map Prod.fst ∧ spec.mqwebName entry.1 = name

/-- Attributes never ask for a DEFINE that does not replace, and two spellings of one key never for two values. -/
structure Settled (spec : DefineSpec) : Prop where
  replaces : ∀ entry ∈ spec.attributes.entries, toLower entry.1 = attrReplace → entry.2 = mqscReplaceYes
  apart : ∀ first ∈ spec.attributes.entries, ∀ second ∈ spec.attributes.entries, toLower first.1 = toLower second.1 →
    ¬spec.Overwritten first.1 → spec.desiredValue first.1 first.2 = spec.desiredValue second.1 second.2

def Typed : DefineSpec → Prop
  | .channel spec => spec.type = .unset →
    (∃ entry ∈ spec.attributes.entries, toLower entry.1 = "chltype") ∧
      ∀ entry ∈ spec.attributes.entries, toLower entry.1 = "chltype" → entry.2 = ChannelType.svrconn.text
  | _ => True

theorem desiredValue_replace (spec : DefineSpec) {key : String} (name : toLower key = attrReplace) (value : String) :
    spec.desiredValue key value = .text value := by
  cases spec with
  | topic spec => rw [desiredValue, name, if_neg (by decide)]
  | queue spec =>
    exact (congrArg (defineParameter _ · value) name).trans (if_neg (by decide : attrReplace ∉ queueNumericParameters))
  | channel spec =>
    exact (congrArg (defineParameter _ · value) name).trans (if_neg (by decide : attrReplace ∉ channelNumericParameters))

theorem lookup_sent_replace_iff (spec : DefineSpec) :
    (∀ others : List (Σ _ : String, String), others.Perm spec.attributes.entries →
        (spec.sent others).lookup attrReplace = some (.text mqscReplaceYes)) ↔
      ∀ entry ∈ spec.attributes.entries, toLower entry.1 = attrReplace → entry.2 = mqscReplaceYes := by
  refine (lookup_fill_orders_iff _ _).trans ?_
  rw [and_iff_left (.inr (AList.lookup_insert _))]
  refine forall₂_congr fun entry member => forall_congr' fun name => ?_
  rw [desiredValue_replace spec name, ParamValue.text.injEq]

theorem lookup_chltype_unset {spec : MqAdmin.ChannelSpec} (unset : spec.type = .unset) :
    (defineChannelParameters spec).lookup "chltype" =
      ((DefineSpec.channel spec).sent spec.attributes.entries).lookup "chltype" := by
  rw [defineChannelParameters, if_neg (not_not_intro unset)]
  rfl

theorem lookup_sent_chltype_iff (spec : MqAdmin.ChannelSpec) :
    (∀ others : List (Σ _ : String, String), others.Perm spec.attributes.entries →
        ((DefineSpec.channel spec).sent others).lookup "chltype" = some (.text ChannelType.svrconn.text)) ↔
      (∃ entry ∈ spec.attributes.entries, toLower entry.1 = "chltype") ∧
        ∀ entry ∈ spec.attributes.entries, toLower entry.1 = "chltype" → entry.2 = ChannelType.svrconn.text := by
  have unstarted : ((∅ : ParamMap).insert attrReplace (.text mqscReplaceYes)).lookup "chltype" ≠
      some (.text ChannelType.svrconn.text) := by decide
  refine (lookup_fill_orders_iff _ _).trans ?_
  rw [or_iff_left unstarted, and_comm]
  refine and_congr_right fun _ => forall₂_congr fun entry member => forall_congr' fun name => ?_
  have text : (DefineSpec.channel spec).desiredValue entry.1 entry.2 = .text entry.2 :=
    (congrArg (defineParameter _ · entry.2) name).trans (if_neg (by decide : "chltype" ∉ channelNumericParameters))
  rw [text, ParamValue.text.injEq]

theorem controls_iff (spec : DefineSpec) :
    (∀ attributes : StringMap, attributes.entries.Perm spec.attributes.entries →
        ∀ control ∈ spec.controls, (spec.withAttributes attributes).parameters.lookup control.1 = some control.2) ↔
      (∀ entry ∈ spec.attributes.entries, toLower entry.1 = attrReplace → entry.2 = mqscReplaceYes) ∧ spec.Typed := by
  have replace : (∀ attributes : StringMap, attributes.entries.Perm spec.attributes.entries →
      (spec.withAttributes attributes).parameters.lookup attrReplace = some (.text mqscReplaceYes)) ↔
        ∀ entry ∈ spec.attributes.entries, toLower entry.1 = attrReplace → entry.2 = mqscReplaceYes := by
    simp only [lookup_replace, attributes_withAttributes, sent_withAttributes]
    exact (forall_orders_iff spec.attributes fun others =>
      (spec.sent others).lookup attrReplace = some (.text mqscReplaceYes)).trans (lookup_sent_replace_iff spec)
  have single : ∀ control : String × ParamValue, control ∈ [(attrReplace, .text mqscReplaceYes)] →
      control = (attrReplace, .text mqscReplaceYes) := fun control member => List.mem_singleton.mp member
  rw [← replace]
  cases spec with
  | queue spec =>
    refine ⟨fun every => ⟨fun attributes perm => every attributes perm _ (List.mem_singleton.mpr rfl), trivial⟩, ?_⟩
    rintro ⟨replaced, -⟩ attributes perm control member
    rw [single control member]
    exact replaced attributes perm
  | topic spec =>
    refine ⟨fun every => ⟨fun attributes perm => every attributes perm _ (List.mem_singleton.mpr rfl), trivial⟩, ?_⟩
    rintro ⟨replaced, -⟩ attributes perm control member
    rw [single control member]
    exact replaced attributes perm
  | channel spec =>
    have typed : (∀ attributes : StringMap, attributes.entries.Perm spec.attributes.entries →
        (defineChannelParameters { spec with attributes }).lookup "chltype" =
          some (.text (normalizeChannelType spec.type).text)) ↔ (DefineSpec.channel spec).Typed := by
      by_cases unset : spec.type = .unset
      · have moved : ∀ attributes : StringMap, (defineChannelParameters { spec with attributes }).lookup "chltype" =
            ((DefineSpec.channel spec).sent attributes.entries).lookup "chltype" := by
          intro attributes
          rw [@lookup_chltype_unset _ { spec with attributes } unset]
          rfl
        simp only [moved]
        rw [unset]
        refine (forall_orders_iff spec.attributes fun others =>
          ((DefineSpec.channel spec).sent others).lookup "chltype" = some (.text ChannelType.svrconn.text)).trans ?_
        rw [lookup_sent_chltype_iff, Typed, forall_prop_of_true unset]
      · refine iff_of_true (fun attributes perm => ?_) fun given => absurd given unset
        rw [defineChannelParameters, if_pos unset]
        exact AList.lookup_insert _
    rw [← typed]
    constructor
    · intro every
      exact ⟨fun attributes perm => every attributes perm _ (List.mem_cons_self ..),
        fun attributes perm => every attributes perm _ (List.mem_cons_of_mem _ (List.mem_singleton.mpr rfl))⟩
    · rintro ⟨replaced, given⟩ attributes perm control member
      rcases List.mem_cons.mp member with rfl | second
      · exact replaced attributes perm
      · rw [List.mem_singleton.mp second]
        exact given attributes perm

theorem apart_of_control {spec : DefineSpec}
    (replaces : ∀ entry ∈ spec.attributes.entries, toLower entry.1 = attrReplace → entry.2 = mqscReplaceYes)
    (typed : spec.Typed) {first second : Σ _ : String, String} (left : first ∈ spec.attributes.entries)
    (right : second ∈ spec.attributes.entries) (same : toLower first.1 = toLower second.1)
    (control : toLower first.1 ∈ spec.controls.map Prod.fst) (own : ¬spec.Overwritten first.1) :
    spec.desiredValue first.1 first.2 = spec.desiredValue second.1 second.2 := by
  have value : first.2 = second.2 := by
    by_cases replace : toLower first.1 = attrReplace
    · rw [replaces first left replace, replaces second right (same ▸ replace)]
    · cases spec with
      | queue spec => exact absurd (List.mem_singleton.mp control) replace
      | topic spec => exact absurd (List.mem_singleton.mp control) replace
      | channel spec =>
        have type : toLower first.1 = "chltype" := List.mem_singleton.mp ((List.mem_cons.mp control).resolve_left replace)
        have unset : spec.type = .unset := by
          by_contra set_type
          exact own ⟨set_type, type⟩
        have given := (typed unset).2
        rw [given first left type, given second right (same ▸ type)]
  rw [value]
  exact spec.desiredValue_congr same _

/-- A DEFINE forwards everything, in every order of the attributes, exactly when no attribute asks for another
replace, no two spellings of a key ask for different values, and a channel has its type. -/
theorem forwards_iff (spec : DefineSpec) :
    (∀ attributes : StringMap, attributes.entries.Perm spec.attributes.entries →
        (spec.withAttributes attributes).Forwards) ↔
      spec.Settled ∧ spec.Typed := by
  constructor
  · intro every
    obtain ⟨replaces, typed⟩ := (controls_iff spec).mp fun attributes perm control member =>
      (every attributes perm).controls control (by rwa [controls_withAttributes])
    refine ⟨⟨replaces, ?_⟩, typed⟩
    intro first left second right same own
    by_cases control : toLower first.1 ∈ spec.controls.map Prod.fst
    · exact apart_of_control replaces typed left right same control own
    · have here := every spec.attributes (List.Perm.refl _)
      rw [withAttributes_attributes] at here
      have found := here.attributes first left control
      rw [spec.mqwebName_congr same, here.attributes second right (same ▸ control)] at found
      exact (Option.some.inj found).symm
  · rintro ⟨⟨replaces, apart⟩, typed⟩ attributes perm
    constructor
    · rw [controls_withAttributes]
      exact (controls_iff spec).mpr ⟨replaces, typed⟩ attributes perm
    · intro entry member other
      rw [attributes_withAttributes] at member
      rw [controls_withAttributes] at other
      have own := not_overwritten_of_not_control other
      rw [lookup_parameters _ (by rwa [overwritten_withAttributes]), attributes_withAttributes, sent_withAttributes,
        desiredValue_withAttributes]
      apply lookup_fill member
      intro second inside same
      exact (apart entry (perm.mem_iff.mp member) second (perm.mem_iff.mp inside) same.symm own).symm
    · intro name present
      exact parameters_cases _ present

end Case

end DefineSpec

def keptQueue : MqAdmin.QueueSpec where
  name := "ORDERS.IN"
  type := .localQueue
  attributes := ((∅ : StringMap).insert "maxdepth" "5000").insert "Replace" "no"

section Cases

attribute [local instance] asciiTables

theorem keptQueue_not_replaced :
    (defineQueueParameters keptQueue).lookup attrReplace = some (.text "no") ∧ ¬(DefineSpec.queue keptQueue).Forwards := by
  have sent : (defineQueueParameters keptQueue).lookup attrReplace = some (.text "no") := by decide +kernel
  refine ⟨sent, fun forwards => ?_⟩
  have replaced := forwards.controls _ (DefineSpec.queue keptQueue).replace_mem_controls
  exact absurd (sent.symm.trans replaced) (by decide)

end Cases

end MKurator.Convergence
