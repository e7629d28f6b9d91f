import MKurator.MqRest.Probes
import MKurator.MqRest.Taxonomy

/-! The operations of a client that define and show topics and channels and define queues, and all its operations as one
type. -/

namespace MKurator.MqRest
open MKurator.Api MKurator.MqAdmin MKurator.Lib MKurator.Lib.Strings

def mqscCommandDefine : String := "define"

def defineRequest (qualifier name : String) (parameters : ParamMap) : MqscRequest :=
  .runCommandJSON mqscCommandDefine qualifier name [] parameters

def topicDisplayRequest (name : String) : MqscRequest :=
  .runCommandJSON mqscCommandDisplay qualifierTopic name topicDisplayParameters ∅

def channelDisplayRequest (name : String) (type : ChannelType) : MqscRequest :=
  let params : ParamMap := if type ≠ .unset then AList.singleton "chltype" (.text (normalizeChannelType type).text) else ∅
  .runCommandJSON mqscCommandDisplay qualifierChannel name (channelDisplayParametersForType type) params

/-- The calls of the methods of a client that talk to mqweb. -/
inductive Operation where
  | ping
  | getQueue (spec : MqAdmin.QueueSpec)
  | defineQueue (spec : MqAdmin.QueueSpec)
  | deleteQueue (spec : MqAdmin.QueueSpec)
  | getTopic (name : String)
  | defineTopic (spec : MqAdmin.TopicSpec)
  | deleteTopic (name : String)
  | getChannel (spec : MqAdmin.ChannelSpec)
  | defineChannel (spec : MqAdmin.ChannelSpec)
  | deleteChannel (spec : MqAdmin.ChannelSpec)
  | setChannelAuth (spec : ChannelAuthSpec)
  | getChannelAuth (spec : ChannelAuthSpec)
  | deleteChannelAuth (spec : ChannelAuthSpec)
  | setAuthority (spec : AuthoritySpec)
  | getAuthority (spec : AuthoritySpec)
  | deleteAuthority (spec : AuthoritySpec)
  | runMQSC (command : String)

section Operations

variable [UnicodeTables] {σ : Type} (net : Network σ) (client : Client)

def defineQueue (spec : MqAdmin.QueueSpec) : Fallible (Wire σ) MqError Unit := do
  Fallible.ofExcept (validateQueueType spec.type)
  execute net client (defineRequest (queueQualifier spec.type) spec.name (defineQueueParameters spec))

def defineTopic (spec : MqAdmin.TopicSpec) : Fallible (Wire σ) MqError Unit :=
  execute net client (defineRequest qualifierTopic spec.name (defineTopicParameters spec))

def defineChannel (spec : MqAdmin.ChannelSpec) : Fallible (Wire σ) MqError Unit := do
  Fallible.ofExcept (validateChannelType spec.type)
  execute net client (defineRequest qualifierChannel spec.name (defineChannelParameters spec))

def namedAttributes (name : String) (resp : MqscResponse) : Except MqError StringMap :=
  resp.firstObjectAttributes.mapError fun e => if e.isNotFound then .notFound name else e

def getTopic (name : String) : Fallible (Wire σ) MqError TopicState := do
  let resp ← (postMQSC net client (topicDisplayRequest name)).mapError PostFailure.error
  let attrs ← Fallible.ofExcept (namedAttributes name resp)
  return ⟨name, normalizeTopicAttributes attrs⟩

def getChannel (spec : MqAdmin.ChannelSpec) : Fallible (Wire σ) MqError ChannelState := do
  Fallible.ofExcept (validateChannelType spec.type)
  let resp ← (postMQSC net client (channelDisplayRequest spec.name spec.type)).mapError PostFailure.error
  let attrs ← Fallible.ofExcept (namedAttributes spec.name resp)
  return ⟨spec.name, attrs⟩

def discarding {τ α : Type} (act : Fallible τ MqError α) : Fallible τ MqError Unit := do
  let _ ← act
  return ()

variable (get : List String → σ → SendResult × σ)

def Operation.plain : Operation → Fallible (ProbeWire σ) MqError Unit
  | ping => ProbeWire.onWire (MqRest.ping net get client)
  | getQueue spec => discarding (MqRest.getQueue net client spec)
  | defineQueue spec => ProbeWire.onWire (MqRest.defineQueue net client spec)
  | deleteQueue spec => ProbeWire.onWire (MqRest.deleteQueue net client spec)
  | getTopic name => ProbeWire.onWire (discarding (MqRest.getTopic net client name))
  | defineTopic spec => ProbeWire.onWire (MqRest.defineTopic net client spec)
  | deleteTopic name => ProbeWire.onWire (MqRest.deleteTopic net client name)
  | getChannel spec => ProbeWire.onWire (discarding (MqRest.getChannel net client spec))
  | defineChannel spec => ProbeWire.onWire (MqRest.defineChannel net client spec)
  | deleteChannel spec => ProbeWire.onWire (MqRest.deleteChannel net client spec)
  | setChannelAuth spec => ProbeWire.onWire (MqRest.setChannelAuth net client spec)
  | getChannelAuth spec => ProbeWire.onWire (discarding (MqRest.getChannelAuth net client spec))
  | deleteChannelAuth spec => ProbeWire.onWire (MqRest.deleteChannelAuth net client spec)
  | setAuthority spec => ProbeWire.onWire (MqRest.setAuthority net client spec)
  | getAuthority spec => ProbeWire.onWire (discarding (MqRest.getAuthority net client spec))
  | deleteAuthority spec => ProbeWire.onWire (MqRest.deleteAuthority net client spec)
  | runMQSC command => ProbeWire.onWire (MqRest.runMQSC net client command)

end Operations

section Wire

variable {σ α β : Type}

theorem onWire_bind (act : Fallible (Wire σ) MqError α) (next : α → Fallible (Wire σ) MqError β) :
    ProbeWire.onWire (act >>= next) = ProbeWire.onWire act >>= fun value => ProbeWire.onWire (next value) :=
  Fallible.focus_bind ProbeWire.wire (fun s wire => { s with wire }) act (fun _ _ => rfl) (fun _ _ _ => rfl) next

theorem onWire_discarding (act : Fallible (Wire σ) MqError α) :
    ProbeWire.onWire (discarding act) = discarding (ProbeWire.onWire act) :=
  onWire_bind act fun _ => pure ()

end Wire

end MKurator.MqRest
