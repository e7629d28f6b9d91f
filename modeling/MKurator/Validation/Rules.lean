import MKurator.Controller.Desired

/-! The CEL rules of the Queue, Topic and Channel resources, and the spellings that they take for one attribute. -/

namespace MKurator.Validation
open MKurator.Api MKurator.MqAdmin MKurator.Lib.Strings MKurator.Controller

def lowerAscii (s : String) : String := String.ofList (s.toList.map Char.toLower)

structure Rule where
  holds : Bool
  message : String

/-- A typed field and the same attribute in the map exclude each other. -/
def exclusive (given : Bool) (spellings : List String) (message : String) (attributes : StringMap) : Rule :=
  ⟨!given || !attributes.keys.any fun key => decide (lowerAscii key ∈ spellings), message⟩

/-- A typed field, or the attribute in the map under one of its keys, is not empty. Here the keys are case-sensitive. -/
def required (applies : Bool) (field : String) (keys : List String) (message : String) (attributes : StringMap) : Rule :=
  ⟨!applies || field != "" || keys.any fun key => attributes.get key != "", message⟩

def queueRules (q : Api.QueueSpec) : List Rule :=
  [required (q.type = .aliasQueue) q.targetQueue ["targq", "target"]
      "alias queues require targetQueue or attribute targq (or target)" q.attributes,
    required (q.type = .remoteQueue) q.xmitQueue ["xmitq", "transmissionqueue"]
      "remote queues require xmitQueue or attribute xmitq (or transmissionqueue)" q.attributes,
    required (q.type = .remoteQueue) q.remoteQueueManager ["rqmname", "remotemanager"]
      "remote queues require remoteQueueManager or attribute rqmname (or remotemanager)" q.attributes,
    exclusive q.maxDepth.isSome ["maxdepth"]
      "maxDepth field and attributes.maxdepth are mutually exclusive" q.attributes,
    exclusive (q.description != "") ["descr"]
      "description field and attributes.descr are mutually exclusive" q.attributes,
    exclusive q.defPersistence.isSome ["defpsist"]
      "defPersistence field and attributes.defpsist are mutually exclusive" q.attributes,
    exclusive q.get.isSome ["get"] "get field and attributes.get are mutually exclusive" q.attributes,
    exclusive q.put.isSome ["put"] "put field and attributes.put are mutually exclusive" q.attributes,
    exclusive (q.targetQueue != "") ["targq", "target"]
      "targetQueue field and attributes.targq (or target) are mutually exclusive" q.attributes,
    exclusive (q.xmitQueue != "") ["xmitq", "transmissionqueue"]
      "xmitQueue field and attributes.xmitq (or transmissionqueue) are mutually exclusive" q.attributes,
    exclusive (q.remoteQueueManager != "") ["rqmname", "remotemanager"]
      "remoteQueueManager field and attributes.rqmname (or remotemanager) are mutually exclusive" q.attributes]

def topicRules (topic : Api.TopicSpec) : List Rule :=
  [exclusive (topic.topicString != "") ["topstr", "topicstr"]
      "topicString field and attributes.topstr (or topicstr) are mutually exclusive" topic.attributes,
    exclusive (topic.description != "") ["descr"]
      "description field and attributes.descr are mutually exclusive" topic.attributes,
    exclusive topic.publish.isSome ["pub"] "publish field and attributes.pub are mutually exclusive" topic.attributes,
    exclusive topic.subscribe.isSome ["sub"]
      "subscribe field and attributes.sub are mutually exclusive" topic.attributes,
    exclusive topic.defPersistence.isSome ["defpsist"]
      "defPersistence field and attributes.defpsist are mutually exclusive" topic.attributes,
    exclusive (topic.publishScope != "") ["pubscope"]
      "publishScope field and attributes.pubscope are mutually exclusive" topic.attributes,
    exclusive (topic.subscribeScope != "") ["subscope"]
      "subscribeScope field and attributes.subscope are mutually exclusive" topic.attributes]

def channelRules (channel : Api.ChannelSpec) : List Rule :=
  [exclusive (channel.description != "") ["descr"]
      "description field and attributes.descr are mutually exclusive" channel.attributes,
    exclusive channel.maxMsgLength.isSome ["maxmsgl"]
      "maxMsgLength field and attributes.maxmsgl are mutually exclusive" channel.attributes,
    exclusive channel.transportType.isSome ["trptype"]
      "transportType field and attributes.trptype are mutually exclusive" channel.attributes,
    exclusive channel.shareConv.isSome ["sharecnv"]
      "shareConv field and attributes.sharecnv are mutually exclusive" channel.attributes,
    exclusive (channel.mcaUser != "") ["mcauser"]
      "mcaUser field and attributes.mcauser are mutually exclusive" channel.attributes,
    exclusive channel.maxInstances.isSome ["maxinst"]
      "maxInstances field and attributes.maxinst are mutually exclusive" channel.attributes,
    exclusive channel.maxInstancesClient.isSome ["maxinstc"]
      "maxInstancesClient field and attributes.maxinstc are mutually exclusive" channel.attributes,
    exclusive (channel.sslCipherSpec != "") ["sslciph"]
      "sslCipherSpec field and attributes.sslciph are mutually exclusive" channel.attributes,
    exclusive channel.sslClientAuth.isSome ["sslcauth"]
      "sslClientAuth field and attributes.sslcauth are mutually exclusive" channel.attributes,
    exclusive (channel.connName != "") ["conname"]
      "connName field and attributes.conname are mutually exclusive" channel.attributes,
    exclusive (channel.xmitQueue != "") ["xmitq"]
      "xmitQueue field and attributes.xmitq are mutually exclusive" channel.attributes,
    required (channel.type = .sdr) channel.connName ["conname"]
      "SDR channels require connName or attribute conname" channel.attributes,
    required (channel.type = .sdr) channel.xmitQueue ["xmitq"]
      "SDR channels require xmitQueue or attribute xmitq" channel.attributes]

def Admitted (rules : List Rule) : Prop := ∀ rule ∈ rules, rule.holds = true

instance (rules : List Rule) : Decidable (Admitted rules) := inferInstanceAs (Decidable (∀ rule ∈ rules, _))

section Spellings

abbrev Synonyms := List (String × String)

def queueSynonyms : Synonyms := [("target", "targq"), ("transmissionqueue", "xmitq"), ("remotemanager", "rqmname")]

def topicSynonyms : Synonyms := [("topicstr", "topstr")]

def channelSynonyms : Synonyms := []

/-- The attribute that the API means by a key of the map. -/
def attributeOf (synonyms : Synonyms) (key : String) : String :=
  (synonyms.lookup (lowerAscii key)).getD (lowerAscii key)

theorem attributeOf_cases (synonyms : Synonyms) (key : String) :
    attributeOf synonyms key = lowerAscii key ∨ (lowerAscii key, attributeOf synonyms key) ∈ synonyms := by
  unfold attributeOf
  cases found : synonyms.lookup (lowerAscii key) with
  | none => exact .inl rfl
  | some name =>
    right
    obtain ⟨before, after, split, -⟩ := List.lookup_eq_some_iff.mp found
    rw [split]
    simp

theorem exclusive_apart {synonyms : Synonyms} {given : Bool} {spellings : List String} {message : String}
    {attributes : StringMap} (holds : (exclusive given spellings message attributes).holds = true) (set : given = true)
    {name : String} (own : name ∈ spellings) (others : ∀ pair ∈ synonyms, pair.2 = name → pair.1 ∈ spellings)
    {key : String} (inside : key ∈ attributes.keys) : attributeOf synonyms key ≠ name := by
  rintro rfl
  have spelled : lowerAscii key ∈ spellings := by
    rcases attributeOf_cases synonyms key with same | listed
    · rwa [← same]
    · exact others _ listed rfl
  rw [exclusive, set, Bool.not_true, Bool.false_or, Bool.not_eq_true', List.any_eq_false] at holds
  exact holds key inside (decide_eq_true spelled)

/-- No key of the map means the attribute of a typed field that is set. -/
def FieldsApart (synonyms : Synonyms) (fields : List TypedField) (attributes : StringMap) : Prop :=
  ∀ name value, (name, some value) ∈ fields → ∀ key ∈ attributes.keys, attributeOf synonyms key ≠ name

theorem givenText_isSome (value : String) : (givenText value).isSome = (value != "") := by
  unfold givenText
  by_cases empty : value = ""
  · simp [empty]
  · simp [empty]

theorem queue_fieldsApart {q : Api.QueueSpec} (admitted : Admitted (queueRules q)) :
    FieldsApart queueSynonyms (queueFields q) q.attributes := by
  intro name value member key inside
  simp only [Admitted, queueRules, List.forall_mem_cons, List.not_mem_nil, false_implies, implies_true, and_true] at admitted
  obtain ⟨-, -, -, maxDepth, description, defPersistence, get, put, target, xmit, manager⟩ := admitted
  simp only [queueFields, List.mem_cons, Prod.mk.injEq, List.not_mem_nil, or_false] at member
  rcases member with ⟨rfl, set⟩ | ⟨rfl, set⟩ | ⟨rfl, set⟩ | ⟨rfl, set⟩ | ⟨rfl, set⟩ | ⟨rfl, set⟩ | ⟨rfl, set⟩ | ⟨rfl, set⟩ <;>
    replace set := (congrArg Option.isSome set).symm <;>
    simp only [Option.isSome_some, Option.isSome_map, givenText_isSome] at set
  · exact exclusive_apart maxDepth set (by decide) (by decide) inside
  · exact exclusive_apart description set (by decide) (by decide) inside
  · exact exclusive_apart defPersistence set (by decide) (by decide) inside
  · exact exclusive_apart get set (by decide) (by decide) inside
  · exact exclusive_apart put set (by decide) (by decide) inside
  · exact exclusive_apart target set (by decide) (by decide) inside
  · exact exclusive_apart xmit set (by decide) (by decide) inside
  · exact exclusive_apart manager set (by decide) (by decide) inside

theorem topic_fieldsApart {topic : Api.TopicSpec} (admitted : Admitted (topicRules topic)) :
    FieldsApart topicSynonyms (topicFields topic) topic.attributes := by
  intro name value member key inside
  simp only [Admitted, topicRules, List.forall_mem_cons, List.not_mem_nil, false_implies, implies_true, and_true] at admitted
  obtain ⟨topicString, description, publish, subscribe, defPersistence, publishScope, subscribeScope⟩ := admitted
  simp only [topicFields, List.mem_cons, Prod.mk.injEq, List.not_mem_nil, or_false] at member
  rcases member with ⟨rfl, set⟩ | ⟨rfl, set⟩ | ⟨rfl, set⟩ | ⟨rfl, set⟩ | ⟨rfl, set⟩ | ⟨rfl, set⟩ | ⟨rfl, set⟩ <;>
    replace set := (congrArg Option.isSome set).symm <;>
    simp only [Option.isSome_some, Option.isSome_map, givenText_isSome] at set
  · exact exclusive_apart topicString set (by decide) (by decide) inside
  · exact exclusive_apart description set (by decide) (by decide) inside
  · exact exclusive_apart publish set (by decide) (by decide) inside
  · exact exclusive_apart subscribe set (by decide) (by decide) inside
  · exact exclusive_apart defPersistence set (by decide) (by decide) inside
  · exact exclusive_apart publishScope set (by decide) (by decide) inside
  · exact exclusive_apart subscribeScope set (by decide) (by decide) inside

theorem channel_fieldsApart {channel : Api.ChannelSpec} (admitted : Admitted (channelRules channel)) :
    FieldsApart channelSynonyms (channelFields channel) channel.attributes := by
  intro name value member key inside
  simp only [Admitted, channelRules, List.forall_mem_cons, List.not_mem_nil, false_implies, implies_true, and_true]
    at admitted
  obtain ⟨description, maxMsgLength, transport, shareConv, mcaUser, maxInst, maxInstc, cipher, clientAuth, connName, xmit, -,
    -⟩ := admitted
  simp only [channelFields, List.mem_cons, Prod.mk.injEq, List.not_mem_nil, or_false] at member
  rcases member with ⟨rfl, set⟩ | ⟨rfl, set⟩ | ⟨rfl, set⟩ | ⟨rfl, set⟩ | ⟨rfl, set⟩ | ⟨rfl, set⟩ |
      ⟨rfl, set⟩ | ⟨rfl, set⟩ | ⟨rfl, set⟩ | ⟨rfl, set⟩ | ⟨rfl, set⟩ <;>
    replace set := (congrArg Option.isSome set).symm <;>
    simp only [Option.isSome_some, Option.isSome_map, givenText_isSome] at set
  · exact exclusive_apart description set (by decide) (by decide) inside
  · exact exclusive_apart maxMsgLength set (by decide) (by decide) inside
  · exact exclusive_apart transport set (by decide) (by decide) inside
  · exact exclusive_apart shareConv set (by decide) (by decide) inside
  · exact exclusive_apart mcaUser set (by decide) (by decide) inside
  · exact exclusive_apart maxInst set (by decide) (by decide) inside
  · exact exclusive_apart maxInstc set (by decide) (by decide) inside
  · exact exclusive_apart cipher set (by decide) (by decide) inside
  · exact exclusive_apart clientAuth set (by decide) (by decide) inside
  · exact exclusive_apart connName set (by decide) (by decide) inside
  · exact exclusive_apart xmit set (by decide) (by decide) inside

end Spellings

end MKurator.Validation
