import MKurator.MqRest.Transport

/-! The operations of the mqweb client, each one request through `postMQSC`. -/

namespace MKurator.MqRest
open MKurator.Api MKurator.MqAdmin MKurator.Lib MKurator.Lib.Strings

def mqscCommandDelete : String := "delete"
def qualifierTopic : String := "topic"
def qualifierChannel : String := "channel"

def mqscNotFoundCodes : List String := ["AMQ8147", "AMQ8958", "AMQ8884"]

structure PostFailure where
  error : MqError
  response : Option MqscResponse

def takeBytes : Nat → List Char → List Char
  | _, [] => []
  | n, c :: cs => if c.utf8Size ≤ n then c :: takeBytes (n - c.utf8Size) cs else []

def truncate (s : String) (n : Nat) : String :=
  if s.utf8ByteSize ≤ n then s else String.ofList (takeBytes n s.toList) ++ "..."

def Client.unauthorizedMessage (client : Client) (base : String) : String :=
  if client.clientCertMode then base ++ " — " ++ dnMappingPrereq else base

/-- The object that a missing answer is about; a plain command names none. -/
def MqscRequest.objectName : MqscRequest → String
  | .runCommand _ => ""
  | .runCommandJSON _ _ name _ _ => name

/-- No parameters: mqweb rejects `chltype` on a DELETE. -/
def deleteRequest (qualifier name : String) : MqscRequest := .runCommandJSON mqscCommandDelete qualifier name [] ∅

def basicClient : Client where
  retry := ⟨4, 200000000, 5000000000, by decide⟩
  ltpa := none
  clientCertMode := false

section Operations

variable [UnicodeTables] {σ : Type} (net : Network σ) (client : Client)

/-- The part of `postMQSC` after the round trip. -/
def readMQSCResponse (request : MqscRequest) (res : HttpResponse) : Except PostFailure MqscResponse :=
  match res.body with
  | .error cause => .error ⟨.transientCaused "read mqweb response" (.plain cause), none⟩
  | .ok raw =>
    if res.status = 401 ∨ res.status = 403 then
      .error ⟨.terminal .unauthorized (client.unauthorizedMessage (httpStatusMessage res.status)), none⟩
    else if 500 ≤ res.status then .error ⟨.transient (httpStatusMessage res.status), none⟩
    else if 400 ≤ res.status then
      .error ⟨.terminal .badRequest (httpStatusMessage res.status ++ ": " ++ truncate raw 200), none⟩
    else match net.unmarshal raw with
      | .error cause =>
        .error ⟨.terminalCaused .invalidResponse "failed to parse mqsc response" (.plain cause), none⟩
      | .ok parsed =>
        if parsed.overallFailed then
          if parsed.isObjectMissing then .error ⟨.notFound request.objectName, some parsed⟩
          else .error ⟨parsed.terminalError "mqsc command failed", some parsed⟩
        else .ok parsed

def postMQSC (request : MqscRequest) : Fallible (Wire σ) PostFailure MqscResponse := do
  let res ← (roundTripWithReauth net client request).mapError (⟨·, none⟩)
  Fallible.ofExcept (readMQSCResponse net client request res)

def execute (request : MqscRequest) : Fallible (Wire σ) MqError Unit := do
  let _ ← (postMQSC net client request).mapError PostFailure.error
  return ()

def runMQSC (command : String) : Fallible (Wire σ) MqError Unit := execute net client (.runCommand command)

/-- The DELETE request, for which a missing object is as good as a deleted one. -/
def deleteObject (qualifier name : String) : Fallible (Wire σ) MqError Unit :=
  Fallible.forgive MqError.isNotFound (execute net client (deleteRequest qualifier name))

def deleteQueue (spec : MqAdmin.QueueSpec) : Fallible (Wire σ) MqError Unit := do
  Fallible.ofExcept (validateQueueType spec.type)
  deleteObject net client (queueQualifier spec.type) spec.name

def deleteTopic (name : String) : Fallible (Wire σ) MqError Unit := deleteObject net client qualifierTopic name

def deleteChannel (spec : MqAdmin.ChannelSpec) : Fallible (Wire σ) MqError Unit :=
  deleteObject net client qualifierChannel spec.name

def saysNotFound (text : String) : Bool :=
  mqscNotFoundCodes.any (contains (toUpper text)) || contains (toLower text) "not found"

def isMQSCNotFound (e : MqError) : Bool := saysNotFound e.text

def runMQSCAllowNotFound (command : String) : Fallible (Wire σ) MqError Unit :=
  Fallible.forgive (fun e => e.isNotFound || isMQSCNotFound e) (runMQSC net client command)

def deleteChannelAuth (spec : ChannelAuthSpec) : Fallible (Wire σ) MqError Unit := do
  let command ← Fallible.ofExcept (buildSetChannelAuthMQSC spec mqscActionRemove)
  runMQSCAllowNotFound net client command

def setChannelAuth (spec : ChannelAuthSpec) : Fallible (Wire σ) MqError Unit := do
  let command ← Fallible.ofExcept (buildSetChannelAuthMQSC spec mqscActionReplace)
  runMQSC net client command

def setAuthority (spec : AuthoritySpec) : Fallible (Wire σ) MqError Unit := do
  let command ← Fallible.ofExcept (buildSetAuthorityMQSC spec false)
  runMQSC net client command

/-- Attributes of a DISPLAY, from the text where the answer has no parameters; a missing object gets its name. -/
def runDisplayMQSC (command object : String) : Fallible (Wire σ) MqError StringMap := do
  let named := fun e : MqError => if e.isNotFound then .notFound object else e
  let parsed ← (postMQSC net client (.runCommand command)).mapError fun failure => named failure.error
  let attrs ← (Fallible.ofExcept parsed.firstObjectAttributes).mapError named
  return if attrs.entries = [] then parsed.displayTextAttributes else attrs

/-- The rule of the spec with the attributes that DISPLAY shows. The addresses of a BLOCKADDR rule are a list. -/
def channelAuthStateFromAttributes (spec : ChannelAuthSpec) (attrs : StringMap) : ChannelAuthState where
  channelName := spec.channelName
  ruleType := spec.ruleType
  address :=
    if spec.ruleType = some .blockAddr ∧ attrs.get "addrlist" ≠ "" then attrs.get "addrlist" else attrs.get "address"
  userList := attrs.get "userlist"
  clientUser := attrs.get "clntuser"
  sslPeerName := attrs.get "sslpeer"
  remoteQueueManager := attrs.get "qmname"
  mcaUser := attrs.get "mcauser"
  userSource := attrs.get "usersrc"
  checkClient := attrs.get "chckclnt"
  description := attrs.get "descr"

def getChannelAuth (spec : ChannelAuthSpec) : Fallible (Wire σ) MqError ChannelAuthState := do
  let command ← Fallible.ofExcept (buildDisplayChannelAuthMQSC spec)
  let attrs ← runDisplayMQSC net client command spec.channelName
  return channelAuthStateFromAttributes spec attrs

def authorityStateFromAttributes (spec : AuthoritySpec) (attrs : StringMap) : AuthorityState where
  profile := spec.profile
  objectType := spec.objectType
  principal := spec.principal
  group := spec.group
  authorities :=
    if attrs.get "authlist" = "" then []
    else ((split (attrs.get "authlist") ',').map trimSpace).filter (· ≠ "")
  nonblank := by
    intro authority listed
    split at listed
    · cases listed
    · obtain ⟨part, some_text⟩ := List.mem_filter.mp listed
      obtain ⟨text, -, rfl⟩ := List.mem_map.mp part
      rw [trimSpace, trimSpace, trimBy_trimBy]
      exact of_decide_eq_true some_text

def authorityRecordRemoved : List String → Bool
  | [] => true
  | [authority] => equalFold authority "NONE"
  | _ => false

def getAuthority (spec : AuthoritySpec) : Fallible (Wire σ) MqError AuthorityState := do
  let command ← Fallible.ofExcept (buildDisplayAuthorityMQSC spec)
  let attrs ← runDisplayMQSC net client command spec.profile
  let state := authorityStateFromAttributes spec attrs
  if authorityRecordRemoved state.authorities then throw (.notFound spec.profile)
  return state

def deleteAuthority (spec : AuthoritySpec) : Fallible (Wire σ) MqError Unit := do
  let command ← Fallible.ofExcept (buildSetAuthorityMQSC spec true)
  runMQSCAllowNotFound net client command

end Operations

section Answers

open Fallible

variable {σ : Type} (net : Network σ) (client : Client)

/-- mqweb answered the request below HTTP 400, with a response that the client could decode. -/
def Answered (request : MqscRequest) (w : Wire σ) (resp : MqscResponse) : Prop :=
  ∃ res raw, (roundTripWithReauth net client request).outcome w = .ok res ∧ res.body = .ok raw ∧ res.status < 400 ∧
    net.unmarshal raw = .ok resp

def Accepted (res : HttpResponse) (resp : MqscResponse) : Prop :=
  ∃ raw, res.body = .ok raw ∧ res.status < 400 ∧ net.unmarshal raw = .ok resp ∧ resp.overallFailed = false

variable [UnicodeTables] {net client} {request : MqscRequest} {w : Wire σ}

theorem readMQSCResponse_ok {res : HttpResponse} {resp : MqscResponse}
    (read : readMQSCResponse net client request res = .ok resp) : Accepted net res resp := by
  unfold readMQSCResponse at read
  split at read
  · cases read
  next raw body =>
    by_cases refused : res.status = 401 ∨ res.status = 403
    · rw [if_pos refused] at read
      cases read
    rw [if_neg refused] at read
    by_cases unavailable : 500 ≤ res.status
    · rw [if_pos unavailable] at read
      cases read
    rw [if_neg unavailable] at read
    by_cases bad : 400 ≤ res.status
    · rw [if_pos bad] at read
      cases read
    rw [if_neg bad] at read
    split at read
    · cases read
    next parsed decoded =>
      cases failed : parsed.overallFailed with
      | true => cases missing : parsed.isObjectMissing <;> simp [failed, missing] at read
      | false =>
        rw [failed] at read
        cases read
        exact ⟨raw, body, by omega, decoded, failed⟩

theorem outcome_postMQSC : (postMQSC net client request).outcome w =
    match (roundTripWithReauth net client request).outcome w with
    | .ok res => readMQSCResponse net client request res
    | .error e => .error ⟨e, none⟩ := by
  rw [postMQSC, outcome_bind, outcome_mapError]
  cases (roundTripWithReauth net client request).outcome w <;> rfl

theorem outcome_execute : (execute net client request).outcome w =
    match (postMQSC net client request).outcome w with
    | .ok _ => .ok ()
    | .error failure => .error failure.error := by
  rw [execute, outcome_bind, outcome_mapError]
  cases (postMQSC net client request).outcome w <;> rfl

theorem postMQSC_of_answered {resp : MqscResponse} (answered : Answered net client request w resp) :
    (postMQSC net client request).outcome w =
      if resp.overallFailed then
        if resp.isObjectMissing then .error ⟨.notFound request.objectName, some resp⟩
        else .error ⟨resp.terminalError "mqsc command failed", some resp⟩
      else .ok resp := by
  obtain ⟨res, raw, arrived, read, low, decoded⟩ := answered
  have accepted : ¬ (res.status = 401 ∨ res.status = 403) := by omega
  rw [outcome_postMQSC, arrived]
  simp only [readMQSCResponse, read]
  rw [if_neg accepted, if_neg (by omega), if_neg (by omega), decoded]

theorem postMQSC_ok {resp : MqscResponse}
    (done : (postMQSC net client request).outcome w = .ok resp) :
    Answered net client request w resp ∧ resp.overallFailed = false := by
  rw [outcome_postMQSC] at done
  cases arrived : (roundTripWithReauth net client request).outcome w with
  | error e =>
    rw [arrived] at done
    cases done
  | ok res =>
    rw [arrived] at done
    obtain ⟨raw, body, low, decoded, success⟩ := readMQSCResponse_ok done
    exact ⟨⟨res, raw, arrived, body, low, decoded⟩, success⟩

theorem execute_ok {value : Unit} (done : (execute net client request).outcome w = .ok value) :
    ∃ resp, Answered net client request w resp ∧ resp.overallFailed = false := by
  rw [outcome_execute] at done
  cases posted : (postMQSC net client request).outcome w with
  | error failure =>
    rw [posted] at done
    cases done
  | ok resp => exact ⟨resp, postMQSC_ok posted⟩

theorem after_execute : (execute net client request).after w = (roundTripWithReauth net client request).after w := by
  have posted : (postMQSC net client request).after w = (roundTripWithReauth net client request).after w := by
    rw [postMQSC, after_bind, outcome_mapError]
    cases (roundTripWithReauth net client request).outcome w <;> rfl
  rw [execute, after_bind, outcome_mapError, ← posted]
  cases (postMQSC net client request).outcome w <;> rfl

theorem runDisplayMQSC_of_attributes {command object : String} {resp : MqscResponse} {attrs : StringMap}
    (posted : (postMQSC net client (.runCommand command)).outcome w = .ok resp)
    (shown : resp.firstObjectAttributes = .ok attrs) :
    (runDisplayMQSC net client command object).outcome w =
      .ok (if attrs.entries = [] then resp.displayTextAttributes else attrs) := by
  rw [runDisplayMQSC]
  simp only [outcome_bind, outcome_mapError, posted, outcome_ofExcept, Except.mapError, shown, outcome_pure]

theorem runDisplayMQSC_ok_iff {command object : String} {attrs : StringMap} :
    (runDisplayMQSC net client command object).outcome w = .ok attrs ↔
      ∃ resp shown, Answered net client (.runCommand command) w resp ∧ resp.overallFailed = false ∧
        resp.firstObjectAttributes = .ok shown ∧
          attrs = if shown.entries = [] then resp.displayTextAttributes else shown := by
  constructor
  · intro done
    rw [runDisplayMQSC, outcome_bind, outcome_mapError] at done
    cases answer : (postMQSC net client (.runCommand command)).outcome w with
    | error failure =>
      rw [answer] at done
      cases done
    | ok resp =>
      rw [answer] at done
      simp only [Except.mapError, outcome_bind, outcome_mapError, outcome_ofExcept] at done
      obtain ⟨answered, fine⟩ := postMQSC_ok answer
      cases shown : resp.firstObjectAttributes with
      | error e =>
        rw [shown] at done
        cases done
      | ok first =>
        rw [shown] at done
        cases done
        exact ⟨resp, first, answered, fine, shown, rfl⟩
  · intro shows_attrs
    obtain ⟨resp, shown, answered, fine, first, same⟩ := shows_attrs
    have answer : (postMQSC net client (.runCommand command)).outcome w = .ok resp := by
      rw [postMQSC_of_answered answered, fine]
      rfl
    rw [same]
    exact runDisplayMQSC_of_attributes answer first

theorem getAuthority_of_attributes {spec : AuthoritySpec} {command : String} {attrs : StringMap}
    (built : buildDisplayAuthorityMQSC spec = .ok command)
    (shown : (runDisplayMQSC net client command spec.profile).outcome w = .ok attrs) :
    (getAuthority net client spec).outcome w =
      if authorityRecordRemoved (authorityStateFromAttributes spec attrs).authorities then .error (.notFound spec.profile)
      else .ok (authorityStateFromAttributes spec attrs) := by
  rw [getAuthority, built, outcome_bind, outcome_ofExcept]
  simp only [after_ofExcept, outcome_bind, shown]
  split <;> rfl

end Answers

end MKurator.MqRest
