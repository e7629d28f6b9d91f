import MKurator.Api.Types
import MKurator.Lib.Decimal

/-! Attributes of the map that have a typed field of their own are moved into it, unless the field is set already. -/

namespace MKurator.Api
open MKurator.Lib.Strings

/-- The typed fields of a queue that an attribute can stand for. A field with an enumeration holds any text until the API
server has checked it, and a text is empty when it is not given. -/
structure TypedQueue where
  maxDepth : Option Int
  description : String
  defPersistence : String
  get : String
  put : String
  targetQueue : String
  xmitQueue : String
  remoteQueueManager : String
  deriving DecidableEq, Repr

structure TypedTopic where
  topicString : String
  description : String
  publish : String
  subscribe : String
  defPersistence : String
  publishScope : String
  subscribeScope : String
  deriving DecidableEq, Repr

structure TypedChannel where
  description : String
  maxMsgLength : Option Int
  transportType : String
  shareConv : Option Int
  mcaUser : String
  maxInstances : Option Int
  maxInstancesClient : Option Int
  sslCipherSpec : String
  sslClientAuth : String
  connName : String
  xmitQueue : String
  deriving DecidableEq, Repr

/-- The keys of one field, and how a value is put into it; `none` is a refusal that leaves the fields as they are. -/
structure AttrFold (σ : Type) where
  keys : List String
  apply : σ → String → Option σ

section Folds

variable {σ : Type}

def textFold (keys : List String) (field : σ → String) (put : σ → String → σ) : AttrFold σ where
  keys
  apply spec value := if field spec ≠ "" then none else some (put spec value)

def numberFold (keys : List String) (field : σ → Option Int) (put : σ → Int → σ) : AttrFold σ where
  keys
  apply spec value := if field spec ≠ none then none else (parseInt32 value).map (put spec)

def queueFolds : List (AttrFold TypedQueue) :=
  [numberFold ["maxdepth"] (·.maxDepth) fun s n => { s with maxDepth := some n },
    textFold ["descr"] (·.description) fun s v => { s with description := v },
    textFold ["defpsist"] (·.defPersistence) fun s v => { s with defPersistence := v },
    textFold ["get"] (·.get) fun s v => { s with get := v },
    textFold ["put"] (·.put) fun s v => { s with put := v },
    textFold ["targq", "target"] (·.targetQueue) fun s v => { s with targetQueue := v },
    textFold ["xmitq", "transmissionqueue"] (·.xmitQueue) fun s v => { s with xmitQueue := v },
    textFold ["rqmname", "remotemanager"] (·.remoteQueueManager) fun s v => { s with remoteQueueManager := v }]

def topicFolds : List (AttrFold TypedTopic) :=
  [textFold ["topstr", "topicstr"] (·.topicString) fun s v => { s with topicString := v },
    textFold ["descr"] (·.description) fun s v => { s with description := v },
    textFold ["pub"] (·.publish) fun s v => { s with publish := v },
    textFold ["sub"] (·.subscribe) fun s v => { s with subscribe := v },
    textFold ["defpsist"] (·.defPersistence) fun s v => { s with defPersistence := v },
    textFold ["pubscope"] (·.publishScope) fun s v => { s with publishScope := v },
    textFold ["subscope"] (·.subscribeScope) fun s v => { s with subscribeScope := v }]

def channelFolds : List (AttrFold TypedChannel) :=
  [textFold ["descr"] (·.description) fun s v => { s with description := v },
    numberFold ["maxmsgl"] (·.maxMsgLength) fun s n => { s with maxMsgLength := some n },
    textFold ["trptype"] (·.transportType) fun s v => { s with transportType := v },
    numberFold ["sharecnv"] (·.shareConv) fun s n => { s with shareConv := some n },
    textFold ["mcauser"] (·.mcaUser) fun s v => { s with mcaUser := v },
    numberFold ["maxinst"] (·.maxInstances) fun s n => { s with maxInstances := some n },
    numberFold ["maxinstc"] (·.maxInstancesClient) fun s n => { s with maxInstancesClient := some n },
    textFold ["sslciph"] (·.sslCipherSpec) fun s v => { s with sslCipherSpec := v },
    textFold ["sslcauth"] (·.sslClientAuth) fun s v => { s with sslClientAuth := v },
    textFold ["conname"] (·.connName) fun s v => { s with connName := v },
    textFold ["xmitq"] (·.xmitQueue) fun s v => { s with xmitQueue := v }]

def attrKeyMatches (norm : String) (keys : List String) : Bool := keys.any fun k => norm = k

def typedQueueFieldSet (spec : TypedQueue) (keys : List String) : Bool :=
  keys.any fun
    | "maxdepth" => spec.maxDepth ≠ none
    | "descr" => spec.description ≠ ""
    | "defpsist" => spec.defPersistence ≠ ""
    | "get" => spec.get ≠ ""
    | "put" => spec.put ≠ ""
    | "targq" | "target" => spec.targetQueue ≠ ""
    | "xmitq" | "transmissionqueue" => spec.xmitQueue ≠ ""
    | "rqmname" | "remotemanager" => spec.remoteQueueManager ≠ ""
    | _ => false

def typedTopicFieldSet (spec : TypedTopic) (keys : List String) : Bool :=
  keys.any fun
    | "topstr" | "topicstr" => spec.topicString ≠ ""
    | "descr" => spec.description ≠ ""
    | "pub" => spec.publish ≠ ""
    | "sub" => spec.subscribe ≠ ""
    | "defpsist" => spec.defPersistence ≠ ""
    | "pubscope" => spec.publishScope ≠ ""
    | "subscope" => spec.subscribeScope ≠ ""
    | _ => false

def typedChannelFieldSet (spec : TypedChannel) (keys : List String) : Bool :=
  keys.any fun
    | "descr" => spec.description ≠ ""
    | "maxmsgl" => spec.maxMsgLength ≠ none
    | "trptype" => spec.transportType ≠ ""
    | "sharecnv" => spec.shareConv ≠ none
    | "mcauser" => spec.mcaUser ≠ ""
    | "maxinst" => spec.maxInstances ≠ none
    | "maxinstc" => spec.maxInstancesClient ≠ none
    | "sslciph" => spec.sslCipherSpec ≠ ""
    | "sslcauth" => spec.sslClientAuth ≠ ""
    | "conname" => spec.connName ≠ ""
    | "xmitq" => spec.xmitQueue ≠ ""
    | _ => false

/-- A kind's table, with its own normal form of a key and its own test of whether a field is set. -/
structure FoldTable (σ : Type) where
  normalize : String → String
  folds : List (AttrFold σ)
  fieldSet : σ → List String → Bool

def FoldTable.find (table : FoldTable σ) (key : String) : Option (AttrFold σ) :=
  table.folds.find? fun fold => attrKeyMatches (table.normalize key) fold.keys

def FoldTable.visit (table : FoldTable σ) (state : σ × StringMap) (entry : Σ _ : String, String) : σ × StringMap :=
  match table.find entry.1 with
  | none => state
  | some fold =>
    match fold.apply state.1 entry.2 with
    | some spec => (spec, state.2.erase entry.1)
    | none => if table.fieldSet state.1 fold.keys then (state.1, state.2.erase entry.1) else state

/-- Go walks the map in any order; the loop deletes the key that it stands on, and no other. -/
def foldAttributes (table : FoldTable σ) (spec : σ) (attrs : StringMap) : σ × StringMap :=
  attrs.entries.foldl table.visit (spec, attrs)

variable [UnicodeTables]

def normalizeTopicAttrKey (key : String) : String :=
  let norm := toLower key
  if norm = "topicstr" then "topstr" else norm

def queueTable : FoldTable TypedQueue := ⟨toLower, queueFolds, typedQueueFieldSet⟩

def topicTable : FoldTable TypedTopic := ⟨normalizeTopicAttrKey, topicFolds, typedTopicFieldSet⟩

def channelTable : FoldTable TypedChannel := ⟨toLower, channelFolds, typedChannelFieldSet⟩

def foldQueueAttributesToTyped (spec : TypedQueue) (attrs : StringMap) : TypedQueue × StringMap :=
  if attrs.entries.length = 0 then (spec, attrs) else foldAttributes queueTable spec attrs

def foldTopicAttributesToTyped (spec : TypedTopic) (attrs : StringMap) : TypedTopic × StringMap :=
  if attrs.entries.length = 0 then (spec, attrs) else foldAttributes topicTable spec attrs

def foldChannelAttributesToTyped (spec : TypedChannel) (attrs : StringMap) : TypedChannel × StringMap :=
  if attrs.entries.length = 0 then (spec, attrs) else foldAttributes channelTable spec attrs

end Folds

end MKurator.Api
