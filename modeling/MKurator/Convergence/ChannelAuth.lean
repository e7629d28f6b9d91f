import MKurator.Controller.Kinds
import MKurator.MqRest.Clauses
import MKurator.MqRest.Client

/-! One SET CHLAUTH and the DISPLAY CHLAUTH behind it, on a queue manager that stores the clauses as they are: when the
rule that is shown is the one that the spec asks for. -/

namespace MKurator.Convergence
open MKurator.Api MKurator.MqAdmin MKurator.MqRest MKurator.Controller MKurator.Lib MKurator.Lib.Strings
open MKurator.Lib.Mqsc MKurator.Lib.Maps

/-- What the CRD schema and its CEL rules ask of a rule. -/
structure ChannelAuthAdmitted (rule : ChannelAuthRuleSpec) : Prop where
  channelName : rule.channelName ≠ ""
  ruleType : rule.ruleType.isSome
  addressMap : rule.ruleType = some .addressMap → rule.address ≠ ""
  blockAddr : rule.ruleType = some .blockAddr → rule.address ≠ ""
  blockUser : rule.ruleType = some .blockUser → rule.userList ≠ ""
  userMap : rule.ruleType = some .userMap → rule.clientUser ≠ ""
  sslPeerMap : rule.ruleType = some .sslPeerMap → rule.sslPeerName ≠ ""
  qmgrMap : rule.ruleType = some .qmgrMap → rule.remoteQueueManager ≠ ""
  mapped : rule.ruleType = some .userMap ∨ rule.ruleType = some .sslPeerMap ∨ rule.ruleType = some .qmgrMap →
    rule.userSource = some .map → rule.mcaUser ≠ ""

section QueueManager

def attributeName (keyword : String) : String := String.ofList (keyword.toList.map Char.toLower)

def setting : Clause → Option (Σ _ : String, String)
  | .word _ => none
  | .bare keyword value | .quoted keyword value => some ⟨keyword, value⟩

def storedAttributes (clauses : List Clause) : StringMap :=
  fill attributeName (fun _ value => value) (clauses.filterMap setting) ∅

def clauseName : Clause → String
  | .word keyword | .bare keyword _ | .quoted keyword _ => attributeName keyword

theorem mem_tableClauses {table : List (Bool × Clause)} {clause : Clause} :
    clause ∈ tableClauses table ↔ (true, clause) ∈ table := by
  rw [tableClauses, List.mem_flatMap]
  constructor
  · rintro ⟨⟨present, other⟩, row, inside⟩
    cases present with
    | false => cases inside
    | true => exact List.mem_singleton.mp inside ▸ row
  · exact fun row => ⟨_, row, List.mem_singleton_self clause⟩

theorem clauseName_of_setting {clause : Clause} {entry : Σ _ : String, String} (stores : setting clause = some entry) :
    clauseName clause = attributeName entry.1 := by
  cases clause <;> cases stores <;> rfl

theorem get_of_row {table : List (Bool × Clause)} (distinct : (table.map fun row => clauseName row.2).Nodup)
    {present : Bool} {clause : Clause} {entry : Σ _ : String, String} (row : (present, clause) ∈ table)
    (stores : setting clause = some entry) :
    (storedAttributes (tableClauses table)).get (attributeName entry.1) = if present then entry.2 else "" := by
  have only : ∀ other ∈ (tableClauses table).filterMap setting, attributeName other.1 = attributeName entry.1 →
      present = true ∧ other = entry := by
    intro other member same
    obtain ⟨origin, inside, read⟩ := List.mem_filterMap.mp member
    have twin : (true, origin) = (present, clause) :=
      List.inj_on_of_nodup_map distinct (mem_tableClauses.mp inside) row
        ((clauseName_of_setting read).trans (same.trans (clauseName_of_setting stores).symm))
    cases twin
    exact ⟨rfl, Option.some.inj (read.symm.trans stores)⟩
  rw [storedAttributes, StringMap.get]
  cases present with
  | true =>
    have member : entry ∈ (tableClauses table).filterMap setting :=
      List.mem_filterMap.mpr ⟨clause, mem_tableClauses.mpr row, stores⟩
    rw [lookup_fill member fun other inside same => by rw [(only other inside same).2]]
    rfl
  | false =>
    rw [lookup_fill_of_absent fun other inside same => absurd (only other inside same).1 Bool.false_ne_true]
    rfl

end QueueManager

section Convergence

def appliedState (spec : ChannelAuthSpec) : ChannelAuthState where
  channelName := spec.channelName
  ruleType := spec.ruleType
  address := spec.address
  userList := spec.userList
  clientUser := if spec.ruleType = some .userMap then spec.clientUser else ""
  sslPeerName := if spec.ruleType = some .sslPeerMap then spec.sslPeerName else ""
  remoteQueueManager := if spec.ruleType = some .qmgrMap then spec.remoteQueueManager else ""
  mcaUser := spec.mcaUser
  userSource := spec.userSource
  checkClient := spec.checkClient
  description := spec.description

theorem channelAuthTable_distinct (spec : ChannelAuthSpec) (ruleType : ChannelAuthRuleType) :
    ((channelAuthTable spec ruleType).map fun row => clauseName row.2).Nodup := by
  by_cases blocked : spec.ruleType = some .blockAddr
  · simp only [channelAuthTable, List.map_cons, List.map_nil, clauseName, if_pos blocked]
    decide
  · simp only [channelAuthTable, List.map_cons, List.map_nil, clauseName, if_neg blocked]
    decide

section Display

variable (spec : ChannelAuthSpec) (ruleType : ChannelAuthRuleType)

def displayed : StringMap := storedAttributes (tableClauses (channelAuthTable spec ruleType))

theorem get_displayed {key keyword value : String} (clause : Clause) (applies : Bool)
    (row : (value != "" && applies, clause) ∈ channelAuthTable spec ruleType)
    (stores : setting clause = some ⟨keyword, value⟩) (name : attributeName keyword = key) :
    (displayed spec ruleType).get key = if applies then value else "" := by
  rw [← name, displayed, get_of_row (channelAuthTable_distinct spec ruleType) row stores]
  cases applies with
  | false => simp
  | true => by_cases empty : value = "" <;> simp [empty]

/-- The addresses of a BLOCKADDR rule go under another keyword, and the adapter looks there. -/
theorem displayed_address (listed : spec.ruleType = some .blockAddr → spec.address ≠ "") :
    (channelAuthStateFromAttributes spec (displayed spec ruleType)).address = spec.address := by
  by_cases blocked : spec.ruleType = some .blockAddr
  · have shown : (displayed spec ruleType).get "addrlist" = spec.address :=
      get_displayed spec ruleType (.quoted "ADDRLIST" spec.address) true (by simp [channelAuthTable, blocked]) rfl
        (by decide)
    simp only [channelAuthStateFromAttributes]
    rw [shown, if_pos ⟨blocked, listed blocked⟩]
  · have shown : (displayed spec ruleType).get "address" = spec.address :=
      get_displayed spec ruleType (.quoted "ADDRESS" spec.address) true (by simp [channelAuthTable, blocked]) rfl
        (by decide)
    simp only [channelAuthStateFromAttributes]
    rw [shown, if_neg fun both => blocked both.1]

theorem displayed_state (listed : spec.ruleType = some .blockAddr → spec.address ≠ "") :
    channelAuthStateFromAttributes spec (displayed spec ruleType) = appliedState spec := by
  have userList : (displayed spec ruleType).get "userlist" = spec.userList :=
    get_displayed spec ruleType (.quoted "USERLIST" spec.userList) true (by simp [channelAuthTable]) rfl (by decide)
  have clientUser : (displayed spec ruleType).get "clntuser" =
      (if spec.ruleType == some .userMap then spec.clientUser else "") :=
    get_displayed spec ruleType (.quoted "CLNTUSER" spec.clientUser) _ (by simp [channelAuthTable]) rfl (by decide)
  have sslPeerName : (displayed spec ruleType).get "sslpeer" =
      (if spec.ruleType == some .sslPeerMap then spec.sslPeerName else "") :=
    get_displayed spec ruleType (.quoted "SSLPEER" spec.sslPeerName) _ (by simp [channelAuthTable]) rfl (by decide)
  have remoteQueueManager : (displayed spec ruleType).get "qmname" =
      (if spec.ruleType == some .qmgrMap then spec.remoteQueueManager else "") :=
    get_displayed spec ruleType (.quoted "QMNAME" spec.remoteQueueManager) _ (by simp [channelAuthTable]) rfl (by decide)
  have mcaUser : (displayed spec ruleType).get "mcauser" = spec.mcaUser :=
    get_displayed spec ruleType (.quoted "MCAUSER" spec.mcaUser) true (by simp [channelAuthTable]) rfl (by decide)
  have userSource : (displayed spec ruleType).get "usersrc" = spec.userSource :=
    get_displayed spec ruleType (.bare "USERSRC" spec.userSource) true (by simp [channelAuthTable]) rfl (by decide)
  have checkClient : (displayed spec ruleType).get "chckclnt" = spec.checkClient :=
    get_displayed spec ruleType (.bare "CHCKCLNT" spec.checkClient) true (by simp [channelAuthTable]) rfl (by decide)
  have description : (displayed spec ruleType).get "descr" = spec.description :=
    get_displayed spec ruleType (.quoted "DESCR" spec.description) true (by simp [channelAuthTable]) rfl (by decide)
  have address := displayed_address spec ruleType listed
  simp only [channelAuthStateFromAttributes] at address
  simp only [channelAuthStateFromAttributes, appliedState, address, userList, clientUser, sslPeerName,
    remoteQueueManager, mcaUser, userSource, checkClient, description, beq_iff_eq]

end Display

section Command

variable {spec : ChannelAuthSpec} {ruleType : ChannelAuthRuleType}

def isBareWord (value : String) : Bool := value.toList.all isBareChar

theorem channelAuthTable_wellFormed (source : isBareWord spec.userSource = true)
    (check : isBareWord spec.checkClient = true) :
    ∀ clause ∈ tableClauses (channelAuthTable spec ruleType), clause.WellFormed := by
  have filled : ∀ value : String, (true = (value != "")) → value.toList ≠ [] := by
    intro value present empty
    have same : value = "" := String.toList_inj.mp empty
    rw [same] at present
    cases present
  have address : ∀ keyword ∈ ["ADDRLIST", "ADDRESS"], (Clause.quoted keyword spec.address).WellFormed := by
    intro keyword member
    rcases List.mem_cons.mp member with rfl | last
    · exact ⟨by decide, by decide⟩
    · rw [List.mem_singleton.mp last]
      exact ⟨by decide, by decide⟩
  intro clause member
  have row := mem_tableClauses.mp member
  simp only [channelAuthTable, List.mem_cons, List.not_mem_nil, or_false, Prod.mk.injEq] at row
  rcases row with ⟨-, rfl⟩ | ⟨-, rfl⟩ | ⟨-, rfl⟩ | ⟨-, rfl⟩ | ⟨-, rfl⟩ | ⟨-, rfl⟩ | ⟨-, rfl⟩ | ⟨sent, rfl⟩ | ⟨-, rfl⟩ |
    ⟨sent, rfl⟩ | ⟨-, rfl⟩ | ⟨-, rfl⟩
  · exact ⟨by decide, by decide⟩
  · exact ⟨⟨by decide, by decide⟩, by cases ruleType <;> decide, by cases ruleType <;> decide⟩
  · exact address _ (by split <;> simp)
  · exact ⟨by decide, by decide⟩
  · exact ⟨by decide, by decide⟩
  · exact ⟨by decide, by decide⟩
  · exact ⟨by decide, by decide⟩
  · exact ⟨⟨by decide, by decide⟩, filled _ sent, source⟩
  · exact ⟨by decide, by decide⟩
  · exact ⟨⟨by decide, by decide⟩, filled _ sent, check⟩
  · exact ⟨by decide, by decide⟩
  · exact ⟨⟨by decide, by decide⟩, by decide, by decide⟩

theorem set_command_reads (checked : channelAuthRuleType spec = .ok ruleType)
    (source : isBareWord spec.userSource = true) (check : isBareWord spec.checkClient = true) :
    ∃ command, buildSetChannelAuthMQSC spec mqscActionReplace = .ok command ∧
      Mqsc.read command = some (.word "SET" :: tableClauses (channelAuthTable spec ruleType)) := by
  refine ⟨_, buildSetChannelAuthMQSC_writes checked, ?_⟩
  rw [Mqsc.read, String.toList_ofList]
  refine read_write _ fun clause member => ?_
  rcases List.mem_cons.mp member with rfl | inside
  · exact ⟨by decide, by decide⟩
  · exact channelAuthTable_wellFormed source check clause inside

theorem ChannelAuthAdmitted.checked {rule : ChannelAuthRuleSpec} (admitted : ChannelAuthAdmitted rule) :
    ∃ ruleType, channelAuthRuleType (toMQChannelAuthSpec rule) = .ok ruleType := by
  obtain ⟨ruleType, known⟩ := Option.isSome_iff_exists.mp admitted.ruleType
  refine ⟨ruleType, ?_⟩
  rw [channelAuthRuleType, if_neg (show (toMQChannelAuthSpec rule).channelName ≠ "" from admitted.channelName)]
  simp only [toMQChannelAuthSpec, known]

theorem toMQChannelAuthSpec_bare (rule : ChannelAuthRuleSpec) :
    isBareWord (toMQChannelAuthSpec rule).userSource = true ∧
      isBareWord (toMQChannelAuthSpec rule).checkClient = true := by
  have sources : ∀ source : Option ChannelAuthUserSource,
      isBareWord ((source.map ChannelAuthUserSource.text).getD "") = true := by
    intro source
    cases source with
    | none => rfl
    | some source => cases source <;> decide
  have checks : ∀ check : Option ChannelAuthCheckClient,
      isBareWord ((check.map ChannelAuthCheckClient.text).getD "") = true := by
    intro check
    cases check with
    | none => rfl
    | some check => cases check <;> decide
  exact ⟨sources rule.userSource, checks rule.checkClient⟩

end Command

section Drift

variable [UnicodeTables]

theorem fieldDiffers_self (value : String) : fieldDiffers value value = false := by
  simp [fieldDiffers, equalFold]

theorem fieldDiffers_if (applied : Prop) [Decidable applied] (value : String) :
    fieldDiffers value (if applied then value else "") = false ↔ applied ∨ trimSpace value = "" := by
  by_cases sent : applied
  · rw [if_pos sent, fieldDiffers_self]
    exact ⟨fun _ => .inl sent, fun _ => rfl⟩
  · rw [if_neg sent, fieldDiffers, trimSpace_empty, equalFold, Bool.not_eq_false', beq_iff_eq]
    simp [sent]

theorem needsUpdate_applied (spec : ChannelAuthSpec) :
    channelAuthNeedsUpdate spec (appliedState spec) = false ↔
      (spec.ruleType = some .userMap ∨ trimSpace spec.clientUser = "") ∧
      (spec.ruleType = some .sslPeerMap ∨ trimSpace spec.sslPeerName = "") ∧
      (spec.ruleType = some .qmgrMap ∨ trimSpace spec.remoteQueueManager = "") := by
  rw [← fieldDiffers_if (spec.ruleType = some .userMap), ← fieldDiffers_if (spec.ruleType = some .sslPeerMap),
    ← fieldDiffers_if (spec.ruleType = some .qmgrMap)]
  simp [channelAuthNeedsUpdate, appliedState, managedFieldDiffers, fieldDiffers_self, and_assoc]

/-- The identity fields of other rule types are blank, for they are compared but never sent. -/
def NoForeignIdentity (rule : ChannelAuthRuleSpec) : Prop :=
  (rule.ruleType = some .userMap ∨ trimSpace rule.clientUser = "") ∧
  (rule.ruleType = some .sslPeerMap ∨ trimSpace rule.sslPeerName = "") ∧
  (rule.ruleType = some .qmgrMap ∨ trimSpace rule.remoteQueueManager = "")

/-- One SET CHLAUTH reaches the desired rule exactly when the spec sets no identity field of another rule type. -/
theorem setChannelAuth_converges_iff (rule : ChannelAuthRuleSpec) (admitted : ChannelAuthAdmitted rule) :
    ∃ command clauses, buildSetChannelAuthMQSC (toMQChannelAuthSpec rule) mqscActionReplace = .ok command ∧
      Mqsc.read command = some (.word "SET" :: clauses) ∧
      (channelAuthNeedsUpdate (toMQChannelAuthSpec rule)
          (channelAuthStateFromAttributes (toMQChannelAuthSpec rule) (storedAttributes clauses)) = false ↔
        NoForeignIdentity rule) := by
  obtain ⟨ruleType, checked⟩ := admitted.checked
  obtain ⟨source, check⟩ := toMQChannelAuthSpec_bare rule
  obtain ⟨command, built, reads⟩ := set_command_reads checked source check
  refine ⟨command, _, built, reads, ?_⟩
  have shown := displayed_state (toMQChannelAuthSpec rule) ruleType admitted.blockAddr
  rw [displayed] at shown
  rw [shown, needsUpdate_applied]
  rfl

end Drift

section Cases

attribute [local instance] asciiTables

def addressRule (clientUser : String) : ChannelAuthRuleSpec where
  connectionRef := "qm1"
  suspend := false
  policies := ⟨none, none⟩
  channelName := "ORDERS.APP"
  ruleType := some .addressMap
  address := "10.0.0.*"
  userList := ""
  clientUser := clientUser
  sslPeerName := ""
  remoteQueueManager := ""
  mcaUser := ""
  userSource := some .channel
  checkClient := none
  description := ""

theorem addressRule_admitted (clientUser : String) : ChannelAuthAdmitted (addressRule clientUser) := by
  constructor <;> simp [addressRule]

theorem addressRule_converges :
    ∃ command clauses, buildSetChannelAuthMQSC (toMQChannelAuthSpec (addressRule "")) mqscActionReplace = .ok command ∧
      Mqsc.read command = some (.word "SET" :: clauses) ∧
      (channelAuthNeedsUpdate (toMQChannelAuthSpec (addressRule ""))
          (channelAuthStateFromAttributes (toMQChannelAuthSpec (addressRule "")) (storedAttributes clauses)) = false ↔
        NoForeignIdentity (addressRule "")) :=
  setChannelAuth_converges_iff (addressRule "") (addressRule_admitted "")

/-- CLNTUSER is not sent for an ADDRESSMAP rule, but compared. -/
theorem addressRule_with_clientUser_never_settles :
    ChannelAuthAdmitted (addressRule "johndoe") ∧
    ∃ command clauses,
      buildSetChannelAuthMQSC (toMQChannelAuthSpec (addressRule "johndoe")) mqscActionReplace = .ok command ∧
      Mqsc.read command = some (.word "SET" :: clauses) ∧
      channelAuthNeedsUpdate (toMQChannelAuthSpec (addressRule "johndoe"))
        (channelAuthStateFromAttributes (toMQChannelAuthSpec (addressRule "johndoe")) (storedAttributes clauses)) = true := by
  refine ⟨addressRule_admitted "johndoe", ?_⟩
  have checked : channelAuthRuleType (toMQChannelAuthSpec (addressRule "johndoe")) = .ok .addressMap := rfl
  obtain ⟨command, built, reads⟩ := set_command_reads checked (by decide) (by decide)
  refine ⟨command, _, built, reads, ?_⟩
  have shown := displayed_state (toMQChannelAuthSpec (addressRule "johndoe")) .addressMap
    (addressRule_admitted "johndoe").blockAddr
  rw [displayed] at shown
  rw [shown]
  decide

end Cases

end Convergence

end MKurator.Convergence
