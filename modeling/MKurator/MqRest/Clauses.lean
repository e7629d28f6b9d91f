import MKurator.Lib.Mqsc
import MKurator.MqRest.Command

/-! The clauses of the CHLAUTH and AUTHREC commands: each builder writes them, and reading its command gives them back. -/

namespace MKurator.MqRest
open MKurator.Api MKurator.MqAdmin MKurator.Lib.Strings MKurator.Lib.Mqsc

theorem toList_mqscQuote (s : String) : (mqscQuote s).toList = doubleQuotes s.toList := by
  rw [mqscQuote, replaceRune, String.toList_ofList]
  rfl

theorem toList_quotedClause (keyword value : String) :
    (quotedClause keyword value).toList = (Clause.quoted keyword value).write := by
  simp only [quotedClause, String.toList_append, toList_mqscQuote, Clause.write]
  simp

theorem toList_join_blank {parts : List String} {groups : List (List Clause)}
    (written : parts.map String.toList = groups.map write) (filled : ∀ group ∈ groups, group ≠ []) :
    (join parts " ").toList = write groups.flatten := by
  rw [join, String.toList_intercalate, written]
  exact intercalate_write groups filled

theorem flatten_singletons (clauses : List Clause) : (clauses.map ([·])).flatten = clauses := by
  induction clauses with
  | nil => rfl
  | cons clause clauses ih => rw [List.map_cons, List.flatten_cons, ih, List.singleton_append]

theorem join_writes {head : String} {parts : List String} {first rest : List Clause}
    (opened : head.toList = write first) (some_first : first ≠ [])
    (written : parts.map String.toList = (rest.map ([·])).map write) :
    join (head :: parts) " " = String.ofList (write (first ++ rest)) := by
  have groups : (head :: parts).map String.toList = (first :: rest.map ([·])).map write := by
    rw [List.map_cons, List.map_cons, opened, written]
  have filled : ∀ group ∈ first :: rest.map ([·]), group ≠ [] := by
    intro group member
    rcases List.mem_cons.mp member with rfl | single
    · exact some_first
    · obtain ⟨clause, -, rfl⟩ := List.mem_map.mp single
      exact List.cons_ne_nil _ _
  rw [← String.ofList_toList (s := join _ _), toList_join_blank groups filled, List.flatten_cons, flatten_singletons]

def chosen (present : Bool) (clause : Clause) : List Clause := if present then [clause] else []

theorem toList_clauseIf (present : Bool) {text : String} {clause : Clause} (same : text.toList = clause.write) :
    (clauseIf present text).map String.toList = ((chosen present clause).map ([·])).map write := by
  cases present with
  | false => rfl
  | true => simp [clauseIf, chosen, same, write]

def authorityTargetClauses (spec : AuthoritySpec) (objectType : AuthorityObjectType) : List Clause :=
  [.quoted "PROFILE" spec.profile, .bare "OBJTYPE" (authorityObjectTypeMQSC objectType),
    if spec.principal ≠ "" then .quoted "PRINCIPAL" spec.principal else .quoted "GROUP" spec.group]

/-- The verb and the clauses up to the object type, which `authorityTarget` writes as one part. -/
def authorityHead (verb : String) (spec : AuthoritySpec) (objectType : AuthorityObjectType) : List Clause :=
  [.word verb, .word "AUTHREC", .quoted "PROFILE" spec.profile, .bare "OBJTYPE" (authorityObjectTypeMQSC objectType)]

theorem authorityTarget_writes (verb : String) (spec : AuthoritySpec) (objectType : AuthorityObjectType)
    {parts : List String} {rest : List Clause} (written : parts.map String.toList = (rest.map ([·])).map write) :
    join (authorityTarget verb spec objectType ++ parts) " " =
      String.ofList (write (.word verb :: .word "AUTHREC" :: authorityTargetClauses spec objectType ++ rest)) := by
  have head : (verb ++ " AUTHREC PROFILE('" ++ mqscQuote spec.profile ++ "') OBJTYPE(" ++
      authorityObjectTypeMQSC objectType ++ ")").toList = write (authorityHead verb spec objectType) := by
    simp only [authorityHead, String.toList_append, toList_mqscQuote, write, List.map_cons, List.map_nil, Clause.write]
    simp [List.intercalate]
  have entity : (if spec.principal ≠ "" then quotedClause "PRINCIPAL" spec.principal
      else quotedClause "GROUP" spec.group).toList =
      (if spec.principal ≠ "" then Clause.quoted "PRINCIPAL" spec.principal else .quoted "GROUP" spec.group).write := by
    split <;> exact toList_quotedClause _ _
  have later : ((if spec.principal ≠ "" then quotedClause "PRINCIPAL" spec.principal
      else quotedClause "GROUP" spec.group) :: parts).map String.toList =
      (((if spec.principal ≠ "" then .quoted "PRINCIPAL" spec.principal else .quoted "GROUP" spec.group) :: rest).map
        ([·])).map write := by
    rw [List.map_cons, entity, written]
    simp [write]
  have whole := join_writes head (List.cons_ne_nil _ _) later
  exact whole

theorem buildSetAuthorityMQSC_writes {spec : AuthoritySpec} {objectType : AuthorityObjectType}
    (checked : authorityObjectType spec = .ok objectType) (listed : spec.authorities ≠ []) :
    buildSetAuthorityMQSC spec false = .ok (String.ofList (write (.word "SET" :: .word "AUTHREC" ::
      authorityTargetClauses spec objectType ++ [.bare "AUTHADD" (join spec.authorities ",")]))) := by
  have added : ["AUTHADD(" ++ join spec.authorities "," ++ ")"].map String.toList =
      ([Clause.bare "AUTHADD" (join spec.authorities ",")].map ([·])).map write := by
    simp [write, Clause.write]
  rw [← authorityTarget_writes "SET" spec objectType added]
  unfold buildSetAuthorityMQSC
  rw [checked]
  simp [bind, Except.bind, listed, pure, Except.pure]

theorem buildSetAuthorityMQSC_removes {spec : AuthoritySpec} {objectType : AuthorityObjectType}
    (checked : authorityObjectType spec = .ok objectType) :
    buildSetAuthorityMQSC spec true = .ok (String.ofList (write (.word "SET" :: .word "AUTHREC" ::
      authorityTargetClauses spec objectType ++ [.bare "AUTHRMV" "ALL"]))) := by
  have removed : ["AUTHRMV(ALL)"].map String.toList = ([Clause.bare "AUTHRMV" "ALL"].map ([·])).map write := by decide
  rw [← authorityTarget_writes "SET" spec objectType removed]
  unfold buildSetAuthorityMQSC
  rw [checked]
  rfl

theorem buildDisplayAuthorityMQSC_writes {spec : AuthoritySpec} {objectType : AuthorityObjectType}
    (checked : authorityObjectType spec = .ok objectType) :
    buildDisplayAuthorityMQSC spec = .ok (String.ofList (write (.word "DISPLAY" :: .word "AUTHREC" ::
      authorityTargetClauses spec objectType))) := by
  have nothing : ([] : List String).map String.toList = (([] : List Clause).map ([·])).map write := rfl
  have whole := authorityTarget_writes "DISPLAY" spec objectType nothing
  rw [List.append_nil, List.append_nil] at whole
  rw [← whole]
  unfold buildDisplayAuthorityMQSC
  rw [checked]
  rfl

def tableClauses (table : List (Bool × Clause)) : List Clause := table.flatMap fun row => chosen row.1 row.2

/-- SET CHLAUTH ACTION(REPLACE) -/
def channelAuthTable (spec : ChannelAuthSpec) (ruleType : ChannelAuthRuleType) : List (Bool × Clause) :=
  [(true, .quoted "CHLAUTH" spec.channelName),
    (true, .bare "TYPE" ruleType.text),
    (spec.address != "", .quoted (if spec.ruleType = some .blockAddr then "ADDRLIST" else "ADDRESS") spec.address),
    (spec.clientUser != "" && spec.ruleType == some .userMap, .quoted "CLNTUSER" spec.clientUser),
    (spec.sslPeerName != "" && spec.ruleType == some .sslPeerMap, .quoted "SSLPEER" spec.sslPeerName),
    (spec.remoteQueueManager != "" && spec.ruleType == some .qmgrMap, .quoted "QMNAME" spec.remoteQueueManager),
    (spec.userList != "", .quoted "USERLIST" spec.userList),
    (spec.userSource != "", .bare "USERSRC" spec.userSource),
    (spec.mcaUser != "", .quoted "MCAUSER" spec.mcaUser),
    (spec.checkClient != "", .bare "CHCKCLNT" spec.checkClient),
    (spec.description != "", .quoted "DESCR" spec.description),
    (true, .bare "ACTION" mqscActionReplace)]

theorem toList_optional (present : Bool) (keyword value : String) :
    (clauseIf present (quotedClause keyword value)).map String.toList =
      ((chosen present (.quoted keyword value)).map ([·])).map write :=
  toList_clauseIf present (toList_quotedClause keyword value)

theorem toList_identityClauses (spec : ChannelAuthSpec) (ruleType : ChannelAuthRuleType) :
    (channelAuthIdentityClauses spec).map String.toList =
      ((tableClauses (((channelAuthTable spec ruleType).drop 2).take 4)).map ([·])).map write := by
  simp only [channelAuthIdentityClauses, channelAuthAddressClause, channelAuthClientUserClause,
    channelAuthSSLPeerClause, channelAuthRemoteQueueManagerClause, channelAuthTable, tableClauses, List.drop_succ_cons,
    List.drop_zero, List.take_succ_cons, List.take_zero, List.flatMap_cons, List.flatMap_nil, List.map_append,
    toList_optional, List.append_assoc, List.append_nil]

def channelAuthHead (verb : String) (spec : ChannelAuthSpec) (ruleType : ChannelAuthRuleType) : List Clause :=
  [.word verb, .quoted "CHLAUTH" spec.channelName, .bare "TYPE" ruleType.text]

theorem toList_channelAuthHead (verb : String) (spec : ChannelAuthSpec) (ruleType : ChannelAuthRuleType) :
    (verb ++ " CHLAUTH('" ++ mqscQuote spec.channelName ++ "') TYPE(" ++ ruleType.text ++ ")").toList =
      write (channelAuthHead verb spec ruleType) := by
  simp only [channelAuthHead, String.toList_append, toList_mqscQuote, write, List.map_cons, List.map_nil, Clause.write]
  simp [List.intercalate]

theorem buildSetChannelAuthMQSC_writes {spec : ChannelAuthSpec} {ruleType : ChannelAuthRuleType}
    (checked : channelAuthRuleType spec = .ok ruleType) :
    buildSetChannelAuthMQSC spec mqscActionReplace =
      .ok (String.ofList (write (.word "SET" :: tableClauses (channelAuthTable spec ruleType)))) := by
  have source : (clauseIf (spec.userSource != "") ("USERSRC(" ++ spec.userSource ++ ")")).map String.toList =
      ((chosen (spec.userSource != "") (.bare "USERSRC" spec.userSource)).map ([·])).map write :=
    toList_clauseIf _ (by simp [Clause.write])
  have check : (clauseIf (spec.checkClient != "") ("CHCKCLNT(" ++ spec.checkClient ++ ")")).map String.toList =
      ((chosen (spec.checkClient != "") (.bare "CHCKCLNT" spec.checkClient)).map ([·])).map write :=
    toList_clauseIf _ (by simp [Clause.write])
  have action : ("ACTION(" ++ mqscActionReplace ++ ")").toList = write [.bare "ACTION" mqscActionReplace] := by
    simp [write, Clause.write]
  have built : buildSetChannelAuthMQSC spec mqscActionReplace =
      .ok (join (("SET" ++ " CHLAUTH('" ++ mqscQuote spec.channelName ++ "') TYPE(" ++ ruleType.text ++ ")") ::
        (channelAuthIdentityClauses spec ++ clauseIf (spec.userList != "") (quotedClause "USERLIST" spec.userList) ++
          clauseIf (spec.userSource != "") ("USERSRC(" ++ spec.userSource ++ ")") ++
          clauseIf (spec.mcaUser != "") (quotedClause "MCAUSER" spec.mcaUser) ++
          clauseIf (spec.checkClient != "") ("CHCKCLNT(" ++ spec.checkClient ++ ")") ++
          clauseIf (spec.description != "") (quotedClause "DESCR" spec.description) ++
          ["ACTION(" ++ mqscActionReplace ++ ")"])) " ") := by
    unfold buildSetChannelAuthMQSC
    rw [checked]
    rfl
  rw [built, @join_writes _ _ _ (tableClauses ((channelAuthTable spec ruleType).drop 2))
    (toList_channelAuthHead "SET" spec ruleType) (List.cons_ne_nil _ _) ?_]
  · rfl
  · simp only [List.map_append, List.map_cons, List.map_nil, toList_identityClauses spec ruleType, toList_optional,
      source, check, action]
    simp only [channelAuthTable, tableClauses, List.drop_succ_cons, List.drop_zero, List.take_succ_cons, List.take_zero,
      List.flatMap_cons, List.flatMap_nil, List.map_append, List.append_assoc, List.append_nil]
    rfl

/-- SET CHLAUTH ACTION(REMOVE): the rows that name the rule and none of its settings. -/
def channelAuthRemoveTable (spec : ChannelAuthSpec) (ruleType : ChannelAuthRuleType) : List (Bool × Clause) :=
  (channelAuthTable spec ruleType).take 6 ++ [(true, .bare "ACTION" mqscActionRemove)]

theorem buildSetChannelAuthMQSC_removes {spec : ChannelAuthSpec} {ruleType : ChannelAuthRuleType}
    (checked : channelAuthRuleType spec = .ok ruleType) :
    buildSetChannelAuthMQSC spec mqscActionRemove =
      .ok (String.ofList (write (.word "SET" :: tableClauses (channelAuthRemoveTable spec ruleType)))) := by
  have built : buildSetChannelAuthMQSC spec mqscActionRemove =
      .ok (join (("SET" ++ " CHLAUTH('" ++ mqscQuote spec.channelName ++ "') TYPE(" ++ ruleType.text ++ ")") ::
        (channelAuthIdentityClauses spec ++ ["ACTION(REMOVE)"])) " ") := by
    unfold buildSetChannelAuthMQSC
    rw [checked]
    rfl
  have written : (channelAuthIdentityClauses spec ++ ["ACTION(REMOVE)"]).map String.toList =
      ((tableClauses (((channelAuthTable spec ruleType).drop 2).take 4) ++ [Clause.bare "ACTION" mqscActionRemove]).map
        ([·])).map write := by
    rw [List.map_append, toList_identityClauses spec ruleType, List.map_append, List.map_append]
    rfl
  rw [built, join_writes (toList_channelAuthHead "SET" spec ruleType) (List.cons_ne_nil _ _) written]
  simp only [channelAuthHead, channelAuthRemoveTable, channelAuthTable, tableClauses, List.drop_succ_cons, List.drop_zero,
    List.take_succ_cons, List.take_zero, List.flatMap_append, List.flatMap_cons, List.flatMap_nil, List.append_nil,
    List.append_assoc]
  rfl

/-- What DISPLAY CHLAUTH asks for behind the channel and the type: one clause at most. -/
def channelAuthFilter (spec : ChannelAuthSpec) (ruleType : ChannelAuthRuleType) : List Clause :=
  if ruleType = .blockAddr then [.word "ADDRLIST"]
  else if ruleType = .userMap ∧ spec.clientUser ≠ "" then [.quoted "CLNTUSER" spec.clientUser]
  else if ruleType = .sslPeerMap ∧ spec.sslPeerName ≠ "" then [.quoted "SSLPEER" spec.sslPeerName]
  else if ruleType = .qmgrMap ∧ spec.remoteQueueManager ≠ "" then [.quoted "QMNAME" spec.remoteQueueManager]
  else if spec.address ≠ "" then [.quoted "ADDRESS" spec.address]
  else []

theorem buildDisplayChannelAuthMQSC_writes {spec : ChannelAuthSpec} {ruleType : ChannelAuthRuleType}
    (checked : channelAuthRuleType spec = .ok ruleType) :
    buildDisplayChannelAuthMQSC spec = .ok (String.ofList (write
      (channelAuthHead "DISPLAY" spec ruleType ++ channelAuthFilter spec ruleType))) := by
  have built : ∃ parts, buildDisplayChannelAuthMQSC spec =
      .ok (join (("DISPLAY" ++ " CHLAUTH('" ++ mqscQuote spec.channelName ++ "') TYPE(" ++ ruleType.text ++ ")") :: parts)
        " ") ∧ parts.map String.toList = ((channelAuthFilter spec ruleType).map ([·])).map write := by
    refine ⟨_, by unfold buildDisplayChannelAuthMQSC; rw [checked]; rfl, ?_⟩
    have single : ∀ keyword value : String, [quotedClause keyword value].map String.toList =
        ([Clause.quoted keyword value].map ([·])).map write := fun keyword value => toList_optional true keyword value
    unfold channelAuthFilter
    split_ifs
    · rfl
    · exact single _ _
    · exact single _ _
    · exact single _ _
    · exact single _ _
    · rfl
  obtain ⟨parts, command, written⟩ := built
  rw [command, join_writes (toList_channelAuthHead "DISPLAY" spec ruleType) (List.cons_ne_nil _ _) written]

end MKurator.MqRest
