import MKurator.Convergence.Authority

/-! The CHLAUTH and AUTHREC builders as a whole: what a queue manager reads in their commands, and when DISPLAY and SET
name the same rule. -/

namespace MKurator.Convergence
open MKurator.Api MKurator.MqAdmin MKurator.MqRest MKurator.Lib.Fallible MKurator.Lib.Strings MKurator.Lib.Mqsc

section Reading

inductive AuthCommand where
  | replaceRule (spec : ChannelAuthSpec)
  | removeRule (spec : ChannelAuthSpec)
  | displayRule (spec : ChannelAuthSpec)
  | addAuthorities (spec : AuthoritySpec)
  | removeAuthorities (spec : AuthoritySpec)
  | displayAuthorities (spec : AuthoritySpec)
  deriving DecidableEq, Repr

def AuthCommand.build : AuthCommand → Except MqError String
  | .replaceRule spec => buildSetChannelAuthMQSC spec mqscActionReplace
  | .removeRule spec => buildSetChannelAuthMQSC spec mqscActionRemove
  | .displayRule spec => buildDisplayChannelAuthMQSC spec
  | .addAuthorities spec => buildSetAuthorityMQSC spec false
  | .removeAuthorities spec => buildSetAuthorityMQSC spec true
  | .displayAuthorities spec => buildDisplayAuthorityMQSC spec

/-- The values that the CRD enumerations and the pattern of an authority let through; every other text is arbitrary. -/
def AuthCommand.Allowed : AuthCommand → Prop
  | .replaceRule spec | .removeRule spec | .displayRule spec =>
    (∃ source : Option ChannelAuthUserSource, spec.userSource = source.elim "" ChannelAuthUserSource.text) ∧
      ∃ check : Option ChannelAuthCheckClient, spec.checkClient = check.elim "" ChannelAuthCheckClient.text
  | .addAuthorities spec | .removeAuthorities spec | .displayAuthorities spec =>
    ∀ authority ∈ spec.authorities, authority.toList ≠ [] ∧ authority.toList.all isAuthorityChar = true

def given (keyword value : String) : List Token := if value = "" then [] else [.text keyword value]

def givenWord (keyword value : String) : List Token := if value = "" then [] else [.items keyword [value]]

def ruleTokens (spec : ChannelAuthSpec) (ruleType : ChannelAuthRuleType) : List Token :=
  [.text "CHLAUTH" spec.channelName, .items "TYPE" [ruleType.text]] ++
    given (if ruleType = .blockAddr then "ADDRLIST" else "ADDRESS") spec.address ++
    (if ruleType = .userMap then given "CLNTUSER" spec.clientUser else []) ++
    (if ruleType = .sslPeerMap then given "SSLPEER" spec.sslPeerName else []) ++
    (if ruleType = .qmgrMap then given "QMNAME" spec.remoteQueueManager else [])

def settingTokens (spec : ChannelAuthSpec) : List Token :=
  given "USERLIST" spec.userList ++ givenWord "USERSRC" spec.userSource ++ given "MCAUSER" spec.mcaUser ++
    givenWord "CHCKCLNT" spec.checkClient ++ given "DESCR" spec.description

def filterTokens (spec : ChannelAuthSpec) (ruleType : ChannelAuthRuleType) : List Token :=
  if ruleType = .blockAddr then [.word "ADDRLIST"]
  else if ruleType = .userMap ∧ spec.clientUser ≠ "" then [.text "CLNTUSER" spec.clientUser]
  else if ruleType = .sslPeerMap ∧ spec.sslPeerName ≠ "" then [.text "SSLPEER" spec.sslPeerName]
  else if ruleType = .qmgrMap ∧ spec.remoteQueueManager ≠ "" then [.text "QMNAME" spec.remoteQueueManager]
  else given "ADDRESS" spec.address

def recordTokens (verb : String) (spec : AuthoritySpec) (objectType : AuthorityObjectType) : List Token :=
  [.word verb, .word "AUTHREC", .text "PROFILE" spec.profile, .items "OBJTYPE" [authorityObjectTypeMQSC objectType],
    if spec.principal ≠ "" then .text "PRINCIPAL" spec.principal else .text "GROUP" spec.group]

/-- The clauses that a command is meant to have, with the values of the spec's fields as they are. -/
def AuthCommand.intended : AuthCommand → Except MqError (List Token)
  | .replaceRule spec => do
    let ruleType ← channelAuthRuleType spec
    return .word "SET" :: (ruleTokens spec ruleType ++ settingTokens spec ++ [.items "ACTION" ["REPLACE"]])
  | .removeRule spec => do
    let ruleType ← channelAuthRuleType spec
    return .word "SET" :: (ruleTokens spec ruleType ++ [.items "ACTION" ["REMOVE"]])
  | .displayRule spec => do
    let ruleType ← channelAuthRuleType spec
    return [.word "DISPLAY", .text "CHLAUTH" spec.channelName, .items "TYPE" [ruleType.text]] ++
      filterTokens spec ruleType
  | .addAuthorities spec => do
    let objectType ← authorityObjectType spec
    if spec.authorities = [] then throw (.terminal .invalidSpec "authorities are required")
    return recordTokens "SET" spec objectType ++ [.items "AUTHADD" spec.authorities]
  | .removeAuthorities spec => do
    let objectType ← authorityObjectType spec
    return recordTokens "SET" spec objectType ++ [.items "AUTHRMV" ["ALL"]]
  | .displayAuthorities spec => do
    let objectType ← authorityObjectType spec
    return recordTokens "DISPLAY" spec objectType

theorem clauses_given (keyword value : String) :
    (given keyword value).map Token.clause = chosen (value != "") (.quoted keyword value) := by
  by_cases empty : value = "" <;> simp [given, chosen, empty, Token.clause]

theorem join_singleton (value : String) : join [value] "," = value := by
  simp [join]

theorem clauses_givenWord (keyword value : String) :
    (givenWord keyword value).map Token.clause = chosen (value != "") (.bare keyword value) := by
  by_cases empty : value = "" <;> simp [givenWord, chosen, empty, Token.clause, join_singleton]

theorem known_of_channelAuthRuleType {spec : ChannelAuthSpec} {ruleType : ChannelAuthRuleType}
    (checked : channelAuthRuleType spec = .ok ruleType) : spec.ruleType = some ruleType := by
  unfold channelAuthRuleType at checked
  split at checked
  · cases checked
  · split at checked
    · cases checked
    · next known =>
      injection checked with same
      rw [known, same]

theorem clauses_ofType {spec : ChannelAuthSpec} {ruleType : ChannelAuthRuleType} (known : spec.ruleType = some ruleType)
    (owner : ChannelAuthRuleType) (keyword value : String) :
    (if ruleType = owner then given keyword value else []).map Token.clause =
      chosen (value != "" && spec.ruleType == some owner) (.quoted keyword value) := by
  by_cases own : ruleType = owner
  · rw [if_pos own, clauses_given, known, own, beq_self_eq_true, Bool.and_true]
  · have other : (some ruleType == some owner) = false := by simpa using own
    rw [if_neg own, known, other, Bool.and_false]
    rfl

theorem clauses_ruleTokens {spec : ChannelAuthSpec} {ruleType : ChannelAuthRuleType}
    (known : spec.ruleType = some ruleType) :
    (ruleTokens spec ruleType).map Token.clause = tableClauses ((channelAuthTable spec ruleType).take 6) := by
  have blocked : (spec.ruleType = some .blockAddr) = (ruleType = .blockAddr) := by rw [known, Option.some.injEq]
  simp only [ruleTokens, List.map_append, List.map_cons, List.map_nil, clauses_given, clauses_ofType known, Token.clause,
    join_singleton, channelAuthTable, tableClauses, List.take_succ_cons, List.take_zero, List.flatMap_cons,
    List.flatMap_nil, List.append_assoc, List.append_nil, blocked]
  rfl

theorem clauses_settingTokens (spec : ChannelAuthSpec) (ruleType : ChannelAuthRuleType) :
    (settingTokens spec).map Token.clause ++ [.bare "ACTION" mqscActionReplace] =
      tableClauses ((channelAuthTable spec ruleType).drop 6) := by
  simp only [settingTokens, List.map_append, clauses_given, clauses_givenWord, channelAuthTable, tableClauses,
    List.drop_succ_cons, List.drop_zero, List.flatMap_cons, List.flatMap_nil, List.append_assoc, List.append_nil]
  rfl

theorem clauses_filterTokens (spec : ChannelAuthSpec) (ruleType : ChannelAuthRuleType) :
    (filterTokens spec ruleType).map Token.clause = channelAuthFilter spec ruleType := by
  unfold filterTokens channelAuthFilter given
  split_ifs <;> first | rfl | contradiction

theorem clauses_recordTokens (verb : String) (spec : AuthoritySpec) (objectType : AuthorityObjectType) :
    (recordTokens verb spec objectType).map Token.clause =
      .word verb :: .word "AUTHREC" :: authorityTargetClauses spec objectType := by
  by_cases principal : spec.principal = "" <;>
    simp [recordTokens, authorityTargetClauses, Token.clause, join_singleton, principal]

def spell (tokens : List Token) : String := String.ofList (write (tokens.map Token.clause))

theorem spelled_of_check {α : Type} {check : Except MqError α} {built : Except MqError String}
    {tokens : α → Except MqError (List Token)} (failing : ∀ failure, check = .error failure → built = .error failure)
    (passing : ∀ result, check = .ok result → built = (tokens result).map spell) :
    built = (check >>= tokens).map spell := by
  cases checked : check with
  | error failure => exact failing failure checked
  | ok result => exact passing result checked

theorem replaceRule_spelled (spec : ChannelAuthSpec) :
    (AuthCommand.replaceRule spec).build = (AuthCommand.replaceRule spec).intended.map spell := by
  apply spelled_of_check
  · intro failure checked
    simp only [AuthCommand.build, buildSetChannelAuthMQSC, checked]
    rfl
  · intro ruleType checked
    have clauses := clauses_ruleTokens (known_of_channelAuthRuleType checked)
    have settings := clauses_settingTokens spec ruleType
    have whole : tableClauses (channelAuthTable spec ruleType) =
        tableClauses ((channelAuthTable spec ruleType).take 6) ++
          tableClauses ((channelAuthTable spec ruleType).drop 6) := by
      rw [tableClauses, tableClauses, tableClauses, ← List.flatMap_append, List.take_append_drop]
    rw [AuthCommand.build, buildSetChannelAuthMQSC_writes checked, whole, ← clauses, ← settings]
    simp [pure, Except.pure, Except.map, spell, Token.clause, join_singleton, mqscActionReplace]

theorem removeRule_spelled (spec : ChannelAuthSpec) :
    (AuthCommand.removeRule spec).build = (AuthCommand.removeRule spec).intended.map spell := by
  apply spelled_of_check
  · intro failure checked
    simp only [AuthCommand.build, buildSetChannelAuthMQSC, checked]
    rfl
  · intro ruleType checked
    have clauses := clauses_ruleTokens (known_of_channelAuthRuleType checked)
    have whole : tableClauses (channelAuthRemoveTable spec ruleType) =
        tableClauses ((channelAuthTable spec ruleType).take 6) ++ [.bare "ACTION" mqscActionRemove] := by
      rw [channelAuthRemoveTable, tableClauses, List.flatMap_append]
      rfl
    rw [AuthCommand.build, buildSetChannelAuthMQSC_removes checked, whole, ← clauses]
    simp [pure, Except.pure, Except.map, spell, Token.clause, join_singleton, mqscActionRemove]

theorem displayRule_spelled (spec : ChannelAuthSpec) :
    (AuthCommand.displayRule spec).build = (AuthCommand.displayRule spec).intended.map spell := by
  apply spelled_of_check
  · intro failure checked
    simp only [AuthCommand.build, buildDisplayChannelAuthMQSC, checked]
    rfl
  · intro ruleType checked
    rw [AuthCommand.build, buildDisplayChannelAuthMQSC_writes checked, ← clauses_filterTokens]
    simp [pure, Except.pure, Except.map, spell, Token.clause, join_singleton, channelAuthHead]

theorem addAuthorities_spelled (spec : AuthoritySpec) :
    (AuthCommand.addAuthorities spec).build = (AuthCommand.addAuthorities spec).intended.map spell := by
  apply spelled_of_check
  · intro failure checked
    simp only [AuthCommand.build, buildSetAuthorityMQSC, checked]
    rfl
  · intro objectType checked
    by_cases listed : spec.authorities = []
    · simp only [AuthCommand.build, buildSetAuthorityMQSC, checked, listed]
      rfl
    · rw [AuthCommand.build, buildSetAuthorityMQSC_writes checked listed, ← clauses_recordTokens]
      simp [pure, Except.pure, Except.map, listed, spell, Token.clause]

theorem removeAuthorities_spelled (spec : AuthoritySpec) :
    (AuthCommand.removeAuthorities spec).build = (AuthCommand.removeAuthorities spec).intended.map spell := by
  apply spelled_of_check
  · intro failure checked
    simp only [AuthCommand.build, buildSetAuthorityMQSC, checked]
    rfl
  · intro objectType checked
    rw [AuthCommand.build, buildSetAuthorityMQSC_removes checked, ← clauses_recordTokens]
    simp [pure, Except.pure, Except.map, spell, Token.clause, join_singleton]

theorem displayAuthorities_spelled (spec : AuthoritySpec) :
    (AuthCommand.displayAuthorities spec).build = (AuthCommand.displayAuthorities spec).intended.map spell := by
  apply spelled_of_check
  · intro failure checked
    simp only [AuthCommand.build, buildDisplayAuthorityMQSC, checked]
    rfl
  · intro objectType checked
    rw [AuthCommand.build, buildDisplayAuthorityMQSC_writes checked, ← clauses_recordTokens]
    rfl

theorem AuthCommand.build_eq (command : AuthCommand) : command.build = command.intended.map spell := by
  cases command with
  | replaceRule spec => exact replaceRule_spelled spec
  | removeRule spec => exact removeRule_spelled spec
  | displayRule spec => exact displayRule_spelled spec
  | addAuthorities spec => exact addAuthorities_spelled spec
  | removeAuthorities spec => exact removeAuthorities_spelled spec
  | displayAuthorities spec => exact displayAuthorities_spelled spec

theorem wellFormed_text {keyword : String} (value : String)
    (formed : keyword.toList ≠ [] ∧ keyword.toList.all isKeywordChar = true) :
    ∀ token ∈ given keyword value, token.WellFormed := by
  intro token member
  unfold given at member
  split at member
  · cases member
  · rw [List.mem_singleton.mp member]
    exact formed

theorem wellFormed_word {keyword value : String}
    (formed : keyword.toList ≠ [] ∧ keyword.toList.all isKeywordChar = true) (item : value = "" ∨ Item value) :
    ∀ token ∈ givenWord keyword value, token.WellFormed := by
  intro token member
  unfold givenWord at member
  split at member
  · cases member
  · next filled =>
    rw [List.mem_singleton.mp member]
    refine ⟨formed, List.cons_ne_nil _ _, fun other inside => ?_⟩
    rw [List.mem_singleton.mp inside]
    exact item.resolve_left filled

theorem item_ruleType (ruleType : ChannelAuthRuleType) : Item ruleType.text := by
  cases ruleType <;> exact ⟨by decide, by decide⟩

theorem item_objectType (objectType : AuthorityObjectType) : Item (authorityObjectTypeMQSC objectType) := by
  cases objectType <;> exact ⟨by decide, by decide⟩

theorem item_userSource {value : String}
    (allowed : ∃ source : Option ChannelAuthUserSource, value = source.elim "" ChannelAuthUserSource.text) :
    value = "" ∨ Item value := by
  obtain ⟨source, rfl⟩ := allowed
  cases source with
  | none => exact .inl rfl
  | some source => cases source <;> exact .inr ⟨by decide, by decide⟩

theorem item_checkClient {value : String}
    (allowed : ∃ check : Option ChannelAuthCheckClient, value = check.elim "" ChannelAuthCheckClient.text) :
    value = "" ∨ Item value := by
  obtain ⟨check, rfl⟩ := allowed
  cases check with
  | none => exact .inl rfl
  | some check => cases check <;> exact .inr ⟨by decide, by decide⟩

theorem wellFormed_items {keyword value : String}
    (formed : keyword.toList ≠ [] ∧ keyword.toList.all isKeywordChar = true) (item : Item value) :
    (Token.items keyword [value]).WellFormed := by
  refine ⟨formed, List.cons_ne_nil _ _, fun other inside => ?_⟩
  rw [List.mem_singleton.mp inside]
  exact item

theorem wellFormed_ruleTokens (spec : ChannelAuthSpec) (ruleType : ChannelAuthRuleType) :
    ∀ token ∈ ruleTokens spec ruleType, token.WellFormed := by
  have optional : ∀ (owner : ChannelAuthRuleType) (keyword value : String),
      (keyword.toList ≠ [] ∧ keyword.toList.all isKeywordChar = true) →
        ∀ token ∈ if ruleType = owner then given keyword value else [], token.WellFormed := by
    intro owner keyword value formed
    split
    · exact wellFormed_text value formed
    · exact fun token member => nomatch member
  have address : (if ruleType = .blockAddr then "ADDRLIST" else "ADDRESS").toList ≠ [] ∧
      (if ruleType = .blockAddr then "ADDRLIST" else "ADDRESS").toList.all isKeywordChar = true := by
    split <;> exact ⟨by decide, by decide⟩
  have type : (Token.items "TYPE" [ruleType.text]).WellFormed :=
    wellFormed_items ⟨by decide, by decide⟩ (item_ruleType ruleType)
  simp only [ruleTokens, List.forall_mem_append, List.forall_mem_cons]
  refine ⟨⟨⟨⟨⟨⟨by decide, by decide⟩, type, fun token member => nomatch member⟩, ?_⟩, ?_⟩, ?_⟩, ?_⟩
  · exact wellFormed_text spec.address address
  · exact optional _ _ _ ⟨by decide, by decide⟩
  · exact optional _ _ _ ⟨by decide, by decide⟩
  · exact optional _ _ _ ⟨by decide, by decide⟩

theorem wellFormed_settingTokens {spec : ChannelAuthSpec} (source : spec.userSource = "" ∨ Item spec.userSource)
    (check : spec.checkClient = "" ∨ Item spec.checkClient) : ∀ token ∈ settingTokens spec, token.WellFormed := by
  simp only [settingTokens, List.forall_mem_append]
  refine ⟨⟨⟨⟨?_, ?_⟩, ?_⟩, ?_⟩, ?_⟩
  · exact wellFormed_text _ ⟨by decide, by decide⟩
  · exact wellFormed_word ⟨by decide, by decide⟩ source
  · exact wellFormed_text _ ⟨by decide, by decide⟩
  · exact wellFormed_word ⟨by decide, by decide⟩ check
  · exact wellFormed_text _ ⟨by decide, by decide⟩

theorem wellFormed_filterTokens (spec : ChannelAuthSpec) (ruleType : ChannelAuthRuleType) :
    ∀ token ∈ filterTokens spec ruleType, token.WellFormed := by
  unfold filterTokens
  split_ifs
  · exact List.forall_mem_singleton.mpr ⟨by decide, by decide⟩
  · exact List.forall_mem_singleton.mpr ⟨by decide, by decide⟩
  · exact List.forall_mem_singleton.mpr ⟨by decide, by decide⟩
  · exact List.forall_mem_singleton.mpr ⟨by decide, by decide⟩
  · exact wellFormed_text spec.address ⟨by decide, by decide⟩

theorem wellFormed_recordTokens {verb : String}
    (formed : verb.toList ≠ [] ∧ verb.toList.all isKeywordChar = true) (spec : AuthoritySpec)
    (objectType : AuthorityObjectType) : ∀ token ∈ recordTokens verb spec objectType, token.WellFormed := by
  have entity : (if spec.principal ≠ "" then Token.text "PRINCIPAL" spec.principal
      else .text "GROUP" spec.group).WellFormed := by
    split <;> exact ⟨by decide, by decide⟩
  have object : (Token.items "OBJTYPE" [authorityObjectTypeMQSC objectType]).WellFormed :=
    wellFormed_items ⟨by decide, by decide⟩ (item_objectType objectType)
  simp only [recordTokens, List.forall_mem_cons]
  exact ⟨formed, ⟨by decide, by decide⟩, ⟨by decide, by decide⟩, object, entity, fun token member => nomatch member⟩

theorem wellFormed_of_check {α : Type} {check : Except MqError α} {meant : α → List Token} {tokens : List Token}
    (formed : ∀ result, ∀ token ∈ meant result, token.WellFormed)
    (passed : (check >>= fun result => pure (meant result)) = .ok tokens) : ∀ token ∈ tokens, token.WellFormed := by
  obtain ⟨result, -, returned⟩ := exists_of_bind_ok passed
  injection returned with same
  rw [← same]
  exact formed result

theorem AuthCommand.Allowed.wellFormed {command : AuthCommand} (allowed : command.Allowed) {tokens : List Token}
    (meant : command.intended = .ok tokens) : ∀ token ∈ tokens, token.WellFormed := by
  have action : ∀ name, Item name → (Token.items "ACTION" [name]).WellFormed :=
    fun name item => wellFormed_items ⟨by decide, by decide⟩ item
  have nothing : ∀ token ∈ ([] : List Token), token.WellFormed := List.forall_mem_nil _
  cases command with
  | replaceRule spec =>
    refine wellFormed_of_check (fun ruleType => ?_) meant
    have settings := wellFormed_settingTokens (item_userSource allowed.1) (item_checkClient allowed.2)
    simp only [List.forall_mem_append, List.forall_mem_cons]
    exact ⟨⟨by decide, by decide⟩, ⟨wellFormed_ruleTokens spec ruleType, settings⟩, action _ ⟨by decide, by decide⟩,
      nothing⟩
  | removeRule spec =>
    refine wellFormed_of_check (fun ruleType => ?_) meant
    simp only [List.forall_mem_append, List.forall_mem_cons]
    exact ⟨⟨by decide, by decide⟩, wellFormed_ruleTokens spec ruleType, action _ ⟨by decide, by decide⟩, nothing⟩
  | displayRule spec =>
    refine wellFormed_of_check (fun ruleType => ?_) meant
    have type : (Token.items "TYPE" [ruleType.text]).WellFormed :=
      wellFormed_items ⟨by decide, by decide⟩ (item_ruleType ruleType)
    simp only [List.forall_mem_append, List.forall_mem_cons]
    exact ⟨⟨⟨by decide, by decide⟩, ⟨by decide, by decide⟩, type, nothing⟩, wellFormed_filterTokens spec ruleType⟩
  | addAuthorities spec =>
    obtain ⟨objectType, -, returned⟩ := exists_of_bind_ok meant
    by_cases listed : spec.authorities = []
    · rw [if_pos listed] at returned
      cases returned
    · rw [if_neg listed] at returned
      injection returned with same
      rw [← same]
      refine List.forall_mem_append.mpr ⟨wellFormed_recordTokens ⟨by decide, by decide⟩ spec objectType, ?_⟩
      refine List.forall_mem_singleton.mpr ⟨⟨by decide, by decide⟩, listed, fun authority member => ?_⟩
      exact item_authority (allowed authority member).1 (allowed authority member).2
  | removeAuthorities spec =>
    refine wellFormed_of_check (fun objectType => ?_) meant
    refine List.forall_mem_append.mpr ⟨wellFormed_recordTokens ⟨by decide, by decide⟩ spec objectType, ?_⟩
    exact List.forall_mem_singleton.mpr (wellFormed_items ⟨by decide, by decide⟩ ⟨by decide, by decide⟩)
  | displayAuthorities spec =>
    exact wellFormed_of_check (fun objectType => wellFormed_recordTokens ⟨by decide, by decide⟩ spec objectType) meant

theorem AuthCommand.Allowed.read_back {command : AuthCommand} (allowed : command.Allowed) :
    command.build.map tokenize = command.intended.map some := by
  rw [command.build_eq]
  cases meant : command.intended with
  | error failure => rfl
  | ok tokens =>
    have back : tokenize (spell tokens) = some tokens := tokenize_write (allowed.wellFormed meant)
    simp only [Except.map, back]

/-- No value of a field adds, hides or changes a clause: reading a command gives exactly its clauses with the values of
the fields, so commands with different clauses are different. -/
theorem commands_not_injectable (command : AuthCommand) (allowed : command.Allowed) :
    command.build.map tokenize = command.intended.map some ∧
      ∀ other : AuthCommand, other.Allowed → ∀ tokens others, command.intended = .ok tokens →
        other.intended = .ok others → tokens ≠ others → command.build ≠ other.build := by
  refine ⟨allowed.read_back, fun other otherAllowed tokens others meant otherMeant different same => ?_⟩
  have mine := allowed.read_back
  have theirs := otherAllowed.read_back
  rw [same, theirs, meant, otherMeant] at mine
  injection mine with read
  injection read with equal
  exact different equal.symm

/-- A channel whose name would end its clause and remove the rule, were its quote not doubled. -/
def hostileRule : ChannelAuthSpec where
  channelName := "A') ACTION(REMOVE"
  ruleType := some .userMap
  address := ""
  userList := ""
  clientUser := "o'neil"
  sslPeerName := ""
  remoteQueueManager := ""
  mcaUser := "app"
  userSource := "MAP"
  checkClient := ""
  description := "('"

theorem commands_not_injectable_hostileRule :
    (AuthCommand.replaceRule hostileRule).Allowed ∧ (AuthCommand.removeRule hostileRule).Allowed ∧
      (AuthCommand.replaceRule hostileRule).build.map tokenize = .ok (some
        [.word "SET", .text "CHLAUTH" "A') ACTION(REMOVE", .items "TYPE" ["USERMAP"], .text "CLNTUSER" "o'neil",
          .items "USERSRC" ["MAP"], .text "MCAUSER" "app", .text "DESCR" "('", .items "ACTION" ["REPLACE"]]) ∧
      (AuthCommand.replaceRule hostileRule).build ≠ (AuthCommand.removeRule hostileRule).build := by
  have replace : (AuthCommand.replaceRule hostileRule).Allowed := ⟨⟨some .map, rfl⟩, none, rfl⟩
  have remove : (AuthCommand.removeRule hostileRule).Allowed := ⟨⟨some .map, rfl⟩, none, rfl⟩
  have read := commands_not_injectable (.replaceRule hostileRule) replace
  exact ⟨replace, remove, read.1.trans rfl, read.2 (.removeRule hostileRule) remove _ _ rfl rfl (by decide)⟩

end Reading

section Identity

variable {spec : ChannelAuthSpec} {ruleType : ChannelAuthRuleType}

def identityKeywords : List String := ["ADDRESS", "CLNTUSER", "SSLPEER", "QMNAME"]

def isIdentity : Token → Bool
  | .word _ => false
  | .items keyword _ | .text keyword _ => keyword ∈ identityKeywords

def identity (tokens : List Token) : List Token := tokens.filter isIdentity

def ownKeyword : ChannelAuthRuleType → String
  | .userMap => "CLNTUSER"
  | .sslPeerMap => "SSLPEER"
  | .qmgrMap => "QMNAME"
  | .addressMap | .blockUser | .blockAddr => ""

def ownField (spec : ChannelAuthSpec) : ChannelAuthRuleType → String
  | .userMap => spec.clientUser
  | .sslPeerMap => spec.sslPeerName
  | .qmgrMap => spec.remoteQueueManager
  | .addressMap | .blockUser | .blockAddr => ""

theorem identity_append (front back : List Token) : identity (front ++ back) = identity front ++ identity back :=
  List.filter_append front back

theorem identity_given (keyword value : String) :
    identity (given keyword value) = if keyword ∈ identityKeywords then given keyword value else [] := by
  unfold given
  by_cases empty : value = ""
  · rw [if_pos empty, ite_self]
    rfl
  · rw [if_neg empty]
    by_cases named : keyword ∈ identityKeywords
    · rw [if_pos named]
      exact List.filter_cons_of_pos (decide_eq_true named)
    · rw [if_neg named]
      exact List.filter_cons_of_neg (by simpa [isIdentity] using named)

theorem identity_givenWord {keyword : String} (other : keyword ∉ identityKeywords) (value : String) :
    identity (givenWord keyword value) = [] := by
  unfold givenWord
  split
  · rfl
  · exact List.filter_cons_of_neg (by simpa [isIdentity] using other)

theorem identity_settingTokens (spec : ChannelAuthSpec) : identity (settingTokens spec) = [] := by
  have source := identity_givenWord (show "USERSRC" ∉ identityKeywords by decide) spec.userSource
  have check := identity_givenWord (show "CHCKCLNT" ∉ identityKeywords by decide) spec.checkClient
  simp [settingTokens, identity_append, identity_given, identityKeywords, source, check]

theorem identity_nil : identity [] = [] := rfl

theorem identity_ruleTokens (other : ruleType ≠ .blockAddr) :
    identity (ruleTokens spec ruleType) =
      given "ADDRESS" spec.address ++ given (ownKeyword ruleType) (ownField spec ruleType) := by
  have head : identity [.text "CHLAUTH" spec.channelName, .items "TYPE" [ruleType.text]] = [] := rfl
  have nothing : given "" "" = [] := rfl
  rw [ruleTokens, if_neg other, identity_append, identity_append, identity_append, identity_append, head,
    List.nil_append]
  cases ruleType with
  | blockAddr => exact absurd rfl other
  | addressMap | blockUser | userMap | sslPeerMap | qmgrMap =>
    simp [identity_given, identity_nil, identityKeywords, ownKeyword, ownField, nothing]

theorem identity_filterTokens (other : ruleType ≠ .blockAddr) :
    identity (filterTokens spec ruleType) =
      if ownField spec ruleType = "" then given "ADDRESS" spec.address
      else given (ownKeyword ruleType) (ownField spec ruleType) := by
  have address : identity (given "ADDRESS" spec.address) = given "ADDRESS" spec.address := by
    rw [identity_given, if_pos (by decide)]
  have own : ∀ keyword value : String, keyword ∈ identityKeywords → value ≠ "" →
      identity [.text keyword value] = given keyword value := by
    intro keyword value named filled
    rw [given, if_neg filled]
    exact List.filter_cons_of_pos (decide_eq_true named)
  cases ruleType with
  | blockAddr => exact absurd rfl other
  | addressMap | blockUser => simpa [filterTokens, ownField] using address
  | userMap =>
    by_cases filled : spec.clientUser = ""
    · simpa [filterTokens, ownField, filled] using address
    · simpa [filterTokens, ownField, ownKeyword, filled] using own "CLNTUSER" _ (by decide) filled
  | sslPeerMap =>
    by_cases filled : spec.sslPeerName = ""
    · simpa [filterTokens, ownField, filled] using address
    · simpa [filterTokens, ownField, ownKeyword, filled] using own "SSLPEER" _ (by decide) filled
  | qmgrMap =>
    by_cases filled : spec.remoteQueueManager = ""
    · simpa [filterTokens, ownField, filled] using address
    · simpa [filterTokens, ownField, ownKeyword, filled] using own "QMNAME" _ (by decide) filled

theorem given_eq_nil_iff (keyword value : String) : given keyword value = [] ↔ value = "" := by
  by_cases empty : value = "" <;> simp [given, empty]

theorem identity_choice_iff (spec : ChannelAuthSpec) (ruleType : ChannelAuthRuleType) :
    ((if ownField spec ruleType = "" then given "ADDRESS" spec.address
        else given (ownKeyword ruleType) (ownField spec ruleType)) =
      given "ADDRESS" spec.address ++ given (ownKeyword ruleType) (ownField spec ruleType)) ↔
      spec.address = "" ∨ ownField spec ruleType = "" := by
  by_cases own : ownField spec ruleType = ""
  · have nothing := (given_eq_nil_iff (ownKeyword ruleType) _).mpr own
    rw [if_pos own, nothing, List.append_nil]
    exact ⟨fun _ => .inr own, fun _ => rfl⟩
  · rw [if_neg own, List.self_eq_append_left, given_eq_nil_iff]
    exact ⟨.inl, fun cases => cases.resolve_right own⟩

/-- GET observes the rule that SET replaces and removes, exactly when the spec does not give both an address and the field
of its own rule type. -/
theorem rule_identity_same_iff (spec : ChannelAuthSpec) (ruleType : ChannelAuthRuleType)
    (checked : channelAuthRuleType spec = .ok ruleType) (other : ruleType ≠ .blockAddr) :
    ∃ shown replaced removed,
      (AuthCommand.displayRule spec).intended = .ok shown ∧ buildDisplayChannelAuthMQSC spec = .ok (spell shown) ∧
      (AuthCommand.replaceRule spec).intended = .ok replaced ∧
        buildSetChannelAuthMQSC spec mqscActionReplace = .ok (spell replaced) ∧
      (AuthCommand.removeRule spec).intended = .ok removed ∧
        buildSetChannelAuthMQSC spec mqscActionRemove = .ok (spell removed) ∧
      ((identity shown = identity replaced ∧ identity shown = identity removed) ↔
        spec.address = "" ∨ ownField spec ruleType = "") := by
  have display : (AuthCommand.displayRule spec).intended = .ok ([.word "DISPLAY", .text "CHLAUTH" spec.channelName,
      .items "TYPE" [ruleType.text]] ++ filterTokens spec ruleType) := by
    simp only [AuthCommand.intended, checked]
    rfl
  have replace : (AuthCommand.replaceRule spec).intended = .ok ([.word "SET"] ++
      (ruleTokens spec ruleType ++ settingTokens spec ++ [.items "ACTION" ["REPLACE"]])) := by
    simp only [AuthCommand.intended, checked]
    rfl
  have remove : (AuthCommand.removeRule spec).intended = .ok ([.word "SET"] ++
      (ruleTokens spec ruleType ++ [.items "ACTION" ["REMOVE"]])) := by
    simp only [AuthCommand.intended, checked]
    rfl
  have spelled : ∀ (command : AuthCommand) (tokens : List Token), command.intended = .ok tokens →
      command.build = .ok (spell tokens) := by
    intro command tokens meant
    rw [command.build_eq, meant]
    rfl
  have named : ∀ tokens, identity ([.word "SET"] ++ tokens) = identity tokens := fun _ => rfl
  have shown : identity ([.word "DISPLAY", .text "CHLAUTH" spec.channelName, .items "TYPE" [ruleType.text]] ++
      filterTokens spec ruleType) = identity (filterTokens spec ruleType) := rfl
  have action : ∀ name, identity [.items "ACTION" [name]] = [] := fun _ => rfl
  refine ⟨_, _, _, display, spelled _ _ display, replace, spelled _ _ replace, remove, spelled _ _ remove, ?_⟩
  rw [named, named, shown, identity_append, identity_append, identity_append, identity_settingTokens, action, action,
    List.append_nil, List.append_nil, and_self, identity_filterTokens other, identity_ruleTokens other]
  exact identity_choice_iff spec ruleType

def addressedUser : ChannelAuthSpec where
  channelName := "ORDERS.APP"
  ruleType := some .userMap
  address := "10.0.0.*"
  userList := ""
  clientUser := "johndoe"
  sslPeerName := ""
  remoteQueueManager := ""
  mcaUser := "app"
  userSource := "MAP"
  checkClient := ""
  description := ""

theorem rule_identity_same_anyAddress :
    channelAuthRuleType { addressedUser with address := "" } = .ok .userMap ∧
      ∃ shown replaced, buildDisplayChannelAuthMQSC { addressedUser with address := "" } = .ok (spell shown) ∧
        buildSetChannelAuthMQSC { addressedUser with address := "" } mqscActionReplace = .ok (spell replaced) ∧
        identity shown = identity replaced := by
  obtain ⟨shown, replaced, _, _, display, _, replace, _, _, same⟩ :=
    rule_identity_same_iff { addressedUser with address := "" } .userMap rfl (by decide)
  exact ⟨rfl, shown, replaced, display, replace, (same.mpr (.inl rfl)).1⟩

/-- SET and REMOVE name the rule of the address range, DISPLAY the rules of the user for any address. -/
theorem addressedUser_identity_differs :
    buildDisplayChannelAuthMQSC addressedUser =
        .ok "DISPLAY CHLAUTH('ORDERS.APP') TYPE(USERMAP) CLNTUSER('johndoe')" ∧
      buildSetChannelAuthMQSC addressedUser mqscActionReplace =
        .ok ("SET CHLAUTH('ORDERS.APP') TYPE(USERMAP) ADDRESS('10.0.0.*') CLNTUSER('johndoe') USERSRC(MAP) " ++
          "MCAUSER('app') ACTION(REPLACE)") ∧
      buildSetChannelAuthMQSC addressedUser mqscActionRemove =
        .ok "SET CHLAUTH('ORDERS.APP') TYPE(USERMAP) ADDRESS('10.0.0.*') CLNTUSER('johndoe') ACTION(REMOVE)" ∧
      (tokenize "DISPLAY CHLAUTH('ORDERS.APP') TYPE(USERMAP) CLNTUSER('johndoe')").map identity =
        some [.text "CLNTUSER" "johndoe"] ∧
      (tokenize ("SET CHLAUTH('ORDERS.APP') TYPE(USERMAP) ADDRESS('10.0.0.*') CLNTUSER('johndoe') USERSRC(MAP) " ++
          "MCAUSER('app') ACTION(REPLACE)")).map identity =
        some [.text "ADDRESS" "10.0.0.*", .text "CLNTUSER" "johndoe"] ∧
      (tokenize "SET CHLAUTH('ORDERS.APP') TYPE(USERMAP) ADDRESS('10.0.0.*') CLNTUSER('johndoe') ACTION(REMOVE)").map
        identity = some [.text "ADDRESS" "10.0.0.*", .text "CLNTUSER" "johndoe"] := by
  have allowed : (AuthCommand.displayRule addressedUser).Allowed := ⟨⟨some .map, rfl⟩, none, rfl⟩
  have read : ∀ (command : AuthCommand) (text : String) (tokens : List Token), command.Allowed →
      command.build = .ok text → command.intended = .ok tokens → (tokenize text).map identity = some (identity tokens) := by
    intro command text tokens admitted built meant
    have back := admitted.read_back
    rw [built, meant] at back
    injection back with same
    rw [same, Option.map_some]
  refine ⟨rfl, rfl, rfl, ?_, ?_, ?_⟩
  · exact read (.displayRule addressedUser) _ _ allowed rfl rfl
  · exact read (.replaceRule addressedUser) _ _ allowed rfl rfl
  · exact read (.removeRule addressedUser) _ _ allowed rfl rfl

end Identity

end MKurator.Convergence
