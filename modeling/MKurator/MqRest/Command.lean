import MKurator.MqAdmin.Match

/-! The commands the mqweb adapter sends: DEFINE parameters, and the MQSC lines for CHLAUTH and AUTHREC records. -/

namespace MKurator.MqRest
open MKurator.Api MKurator.MqAdmin MKurator.Lib.Strings

def mqscActionReplace : String := "REPLACE"
def mqscActionRemove : String := "REMOVE"
def attrReplace : String := "replace"
def mqscReplaceYes : String := "yes"

def queueNumericParameters : List String := ["maxdepth", "maxmsglen"]

def channelNumericParameters : List String := ["sharecnv", "maxmsgl", "maxinst", "maxinstc"]

def queueLocalDisplayParameters : List String := ["maxdepth", "descr", "defpsist", "get", "put"]

def queueAliasDisplayParameters : List String := ["targq", "targtype", "descr"]

def queueRemoteDisplayParameters : List String := ["rname", "rqmname", "xmitq", "descr"]

def channelSvrconnDisplayParameters : List String :=
  ["descr", "trptype", "sharecnv", "maxmsgl", "mcauser", "maxinst", "maxinstc", "sslciph", "sslcauth"]

def channelSdrDisplayParameters : List String :=
  ["descr", "trptype", "conname", "xmitq", "maxmsgl", "mcauser", "sslciph"]

def channelRcvrDisplayParameters : List String := ["descr", "trptype", "maxmsgl", "mcauser", "sslciph"]

def topicDisplayParameters : List String :=
  ["topicStr", "descr", "pub", "sub", "defpsist", "pubscope", "subscope"]

def queueDisplayParameters (type : QueueType) : List String :=
  match normalizeQueueType type with
  | .aliasQueue => queueAliasDisplayParameters
  | .remoteQueue => queueRemoteDisplayParameters
  | _ => queueLocalDisplayParameters

/-- `ChannelDriftCheckKeys` -/
def channelDisplayParametersForType (type : ChannelType) : List String :=
  match normalizeChannelType type with
  | .sdr => channelSdrDisplayParameters
  | .rcvr => channelRcvrDisplayParameters
  | _ => channelSvrconnDisplayParameters

/-- Attributes that DEFINE takes, and DISPLAY only on some versions. -/
def queueLocalDefineOnlyCandidates : List String := ["share", "defopts", "bothresh", "boqname", "usage", "maxmsglen"]

def queueLocalDisplayParametersResolved (displayable : String → Bool) : List String :=
  queueLocalDisplayParameters ++ queueLocalDefineOnlyCandidates.filter displayable

/-- What GetQueue displays, and the drift-check keys of the same queue. -/
def queueDisplayParametersForGet (displayable : String → Bool) (type : QueueType) : List String :=
  if normalizeQueueType type ≠ .localQueue then queueDisplayParameters type
  else queueLocalDisplayParametersResolved displayable

def queueQualifier (type : QueueType) : String :=
  match normalizeQueueType type with
  | .aliasQueue => "qalias"
  | .remoteQueue => "qremote"
  | _ => "qlocal"

def defineQueueMQSCKeyword (type : QueueType) : String :=
  match normalizeQueueType type with
  | .aliasQueue => "QALIAS"
  | .remoteQueue => "QREMOTE"
  | _ => "QLOCAL"

inductive ParamValue where
  | text (value : String)
  | number (value : Int)
  deriving DecidableEq, Repr

def ParamValue.sprint : ParamValue → String
  | .text value => value
  | .number value => toString value

abbrev ParamMap := AList fun _ : String => ParamValue

def mqscQuote (s : String) : String := replaceRune s '\'' "''"

section Case

variable [UnicodeTables]

def validateQueueType (type : QueueType) : Except MqError Unit :=
  match normalizeQueueType type with
  | .localQueue | .aliasQueue | .remoteQueue => .ok ()
  | _ => .error (.terminal .unsupportedQueueType ("queue type " ++ quote type.text ++ " is not supported"))

def validateChannelType (type : ChannelType) : Except MqError Unit :=
  if channelTypeSupported type then .ok ()
  else .error (.terminal .unsupportedChannelType ("channel type " ++ quote type.text ++ " is not supported"))

def defineParameter (numericKeys : List String) (key value : String) : ParamValue :=
  if key ∈ numericKeys then
    match atoi value with
    | some n => .number n
    | none => .text value
  else .text value

def defineObjectParameters (attrs : StringMap) (numericKeys : List String) : ParamMap :=
  attrs.entries.foldl
    (fun params ⟨k, v⟩ => params.insert (toLower k) (defineParameter numericKeys (toLower k) v))
    ((∅ : ParamMap).insert attrReplace (.text mqscReplaceYes))

def defineQueueParameters (spec : MqAdmin.QueueSpec) : ParamMap :=
  defineObjectParameters spec.attributes queueNumericParameters

/-- CRD and MQSC attribute names become mqweb JSON names. -/
def mapTopicRESTParameters (params : ParamMap) : ParamMap :=
  let renamed := match params.lookup "topstr" with
    | some v => (params.insert "topicStr" v).erase "topstr"
    | none => params
  ["pub", "sub"].foldl (fun params key =>
    match params.lookup key with
    | some v => params.insert key (.text (toUpper v.sprint))
    | none => params) renamed

def defineTopicParameters (spec : MqAdmin.TopicSpec) : ParamMap :=
  mapTopicRESTParameters (defineObjectParameters spec.attributes [])

def normalizeTopicAttributes (attrs : StringMap) : StringMap :=
  match attrs.lookup (toLower "topicStr") with
  | some v => attrs.insert "topstr" v
  | none => attrs

/-- A name of mqweb stands in for an MQSC key that is missing or empty. -/
def standIn (name key : String) (attrs : StringMap) : StringMap :=
  match attrs.lookup name with
  | some v => if attrs.get key = "" then attrs.insert key v else attrs
  | none => attrs

def normalizeQueueAttributes (attrs : StringMap) (type : QueueType) : StringMap :=
  match normalizeQueueType type with
  | .aliasQueue => attrs |> standIn "target" "targq"
  | .remoteQueue =>
    attrs |> standIn "remotequeue" "rname" |> standIn "remotemanager" "rqmname" |> standIn "transmissionqueue" "xmitq"
  | _ => attrs

def defineChannelParameters (spec : MqAdmin.ChannelSpec) : ParamMap :=
  let params := defineObjectParameters spec.attributes channelNumericParameters
  if spec.type ≠ .unset then params.insert "chltype" (.text (normalizeChannelType spec.type).text) else params

def formatMQSCAttribute (key : String) (value : ParamValue) : String :=
  match value with
  | .number n => toUpper key ++ "(" ++ toString n ++ ")"
  | .text v => toUpper key ++ "('" ++ mqscQuote v ++ "')"

def formatDefineObjectMQSC (objectType name : String) (params : ParamMap) : String :=
  let keys := sorted (params.keys.filter (· ≠ attrReplace))
  join (["DEFINE " ++ objectType ++ "('" ++ mqscQuote name ++ "')", mqscActionReplace] ++
    keys.map fun key => formatMQSCAttribute key ((params.lookup key).getD (.text ""))) " "

def formatDefineQueueMQSC (spec : MqAdmin.QueueSpec) : Except MqError String := do
  validateQueueType spec.type
  return formatDefineObjectMQSC (defineQueueMQSCKeyword spec.type) spec.name (defineQueueParameters spec)

def formatDefineTopicMQSC (spec : MqAdmin.TopicSpec) : Except MqError String :=
  .ok (formatDefineObjectMQSC "TOPIC" spec.name (defineTopicParameters spec))

def formatDefineChannelMQSC (spec : MqAdmin.ChannelSpec) : Except MqError String :=
  .ok (formatDefineObjectMQSC "CHANNEL" spec.name (defineChannelParameters spec))

end Case

def quotedClause (keyword value : String) : String := keyword ++ "('" ++ mqscQuote value ++ "')"

def clauseIf (present : Bool) (clause : String) : List String := if present then [clause] else []

def channelAuthAddressClause (spec : ChannelAuthSpec) : List String :=
  clauseIf (spec.address != "")
    (quotedClause (if spec.ruleType = some .blockAddr then "ADDRLIST" else "ADDRESS") spec.address)

def channelAuthClientUserClause (spec : ChannelAuthSpec) : List String :=
  clauseIf (spec.clientUser != "" && spec.ruleType == some .userMap) (quotedClause "CLNTUSER" spec.clientUser)

def channelAuthSSLPeerClause (spec : ChannelAuthSpec) : List String :=
  clauseIf (spec.sslPeerName != "" && spec.ruleType == some .sslPeerMap) (quotedClause "SSLPEER" spec.sslPeerName)

def channelAuthRemoteQueueManagerClause (spec : ChannelAuthSpec) : List String :=
  clauseIf (spec.remoteQueueManager != "" && spec.ruleType == some .qmgrMap)
    (quotedClause "QMNAME" spec.remoteQueueManager)

def channelAuthIdentityClauses (spec : ChannelAuthSpec) : List String :=
  channelAuthAddressClause spec ++ channelAuthClientUserClause spec ++ channelAuthSSLPeerClause spec ++
    channelAuthRemoteQueueManagerClause spec

def channelAuthRuleType (spec : ChannelAuthSpec) : Except MqError ChannelAuthRuleType :=
  if spec.channelName = "" then .error (.terminal .invalidSpec "channel name is required")
  else match spec.ruleType with
    | none => .error (.terminal .invalidSpec "rule type is required")
    | some ruleType => .ok ruleType

def buildSetChannelAuthMQSC (spec : ChannelAuthSpec) (action : String) : Except MqError String := do
  let ruleType ← channelAuthRuleType spec
  let identity := ["SET CHLAUTH('" ++ mqscQuote spec.channelName ++ "') TYPE(" ++ ruleType.text ++ ")"] ++
    channelAuthIdentityClauses spec
  if action = mqscActionRemove then return join (identity ++ ["ACTION(REMOVE)"]) " "
  return join (identity ++
    clauseIf (spec.userList != "") (quotedClause "USERLIST" spec.userList) ++
    clauseIf (spec.userSource != "") ("USERSRC(" ++ spec.userSource ++ ")") ++
    clauseIf (spec.mcaUser != "") (quotedClause "MCAUSER" spec.mcaUser) ++
    clauseIf (spec.checkClient != "") ("CHCKCLNT(" ++ spec.checkClient ++ ")") ++
    clauseIf (spec.description != "") (quotedClause "DESCR" spec.description) ++
    ["ACTION(" ++ action ++ ")"]) " "

def formatSetChannelAuthMQSC (spec : ChannelAuthSpec) : Except MqError String :=
  buildSetChannelAuthMQSC spec mqscActionReplace

def buildDisplayChannelAuthMQSC (spec : ChannelAuthSpec) : Except MqError String := do
  let ruleType ← channelAuthRuleType spec
  let clauses :=
    if ruleType = .blockAddr then ["ADDRLIST"]
    else if ruleType = .userMap ∧ spec.clientUser ≠ "" then [quotedClause "CLNTUSER" spec.clientUser]
    else if ruleType = .sslPeerMap ∧ spec.sslPeerName ≠ "" then [quotedClause "SSLPEER" spec.sslPeerName]
    else if ruleType = .qmgrMap ∧ spec.remoteQueueManager ≠ "" then [quotedClause "QMNAME" spec.remoteQueueManager]
    else if spec.address ≠ "" then [quotedClause "ADDRESS" spec.address]
    else []
  return join (["DISPLAY CHLAUTH('" ++ mqscQuote spec.channelName ++ "') TYPE(" ++ ruleType.text ++ ")"] ++
    clauses) " "

def authorityObjectTypeMQSC : AuthorityObjectType → String
  | .nlist => "NAMELIST"
  | objectType => objectType.text

/-- The checks that `buildSetAuthorityMQSC` and `buildDisplayAuthorityMQSC` make first. -/
def authorityObjectType (spec : AuthoritySpec) : Except MqError AuthorityObjectType :=
  if spec.profile = "" then .error (.terminal .invalidSpec "profile is required")
  else match spec.objectType with
    | none => .error (.terminal .invalidSpec "object type is required")
    | some objectType =>
      if spec.principal = "" ∧ spec.group = "" then
        .error (.terminal .invalidSpec "principal or group is required")
      else if spec.principal ≠ "" ∧ spec.group ≠ "" then
        .error (.terminal .invalidSpec "specify principal or group, not both")
      else .ok objectType

def authorityTarget (verb : String) (spec : AuthoritySpec) (objectType : AuthorityObjectType) : List String :=
  [verb ++ " AUTHREC PROFILE('" ++ mqscQuote spec.profile ++ "') OBJTYPE(" ++
      authorityObjectTypeMQSC objectType ++ ")",
    if spec.principal ≠ "" then quotedClause "PRINCIPAL" spec.principal else quotedClause "GROUP" spec.group]

def buildSetAuthorityMQSC (spec : AuthoritySpec) (remove : Bool) : Except MqError String := do
  let objectType ← authorityObjectType spec
  if remove then return join (authorityTarget "SET" spec objectType ++ ["AUTHRMV(ALL)"]) " "
  if spec.authorities = [] then throw (.terminal .invalidSpec "authorities are required")
  return join (authorityTarget "SET" spec objectType ++ ["AUTHADD(" ++ join spec.authorities "," ++ ")"]) " "

def formatSetAuthorityMQSC (spec : AuthoritySpec) : Except MqError String := buildSetAuthorityMQSC spec false

def buildDisplayAuthorityMQSC (spec : AuthoritySpec) : Except MqError String := do
  let objectType ← authorityObjectType spec
  return join (authorityTarget "DISPLAY" spec objectType) " "

end MKurator.MqRest
