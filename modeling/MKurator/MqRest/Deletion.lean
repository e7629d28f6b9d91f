import MKurator.MqRest.Client

/-! When a delete returns no error: only then does a resource give up its finalizer. -/

namespace MKurator.MqRest
open MKurator.Api MKurator.MqAdmin MKurator.Lib MKurator.Lib.Strings MKurator.Lib.Fallible

/-- The marker neither lies in the text nor can begin at its end. -/
def ClearOf (marker text : String) : Prop :=
  contains text marker = false ∧ ∀ left ∈ marker.toList.inits, left ≠ [] → ¬ left <:+ text.toList

def ClearOfMarkers (text : String) : Prop :=
  text.toList.all isPlain = true ∧
    (∀ code ∈ mqscNotFoundCodes, ClearOf code (String.ofList (text.toList.map Char.toUpper))) ∧
    ClearOf "not found" (String.ofList (text.toList.map Char.toLower))

theorem clearOfMarkers_ofList (chars : List Char) (plain : chars.all isPlain = true)
    (codes : ∀ code ∈ mqscNotFoundCodes, (chars.map Char.toUpper).tails.any (code.toList.isPrefixOf ·) = false ∧
      ∀ left ∈ code.toList.inits, left ≠ [] → ¬ left <:+ chars.map Char.toUpper)
    (words : (chars.map Char.toLower).tails.any ("not found".toList.isPrefixOf ·) = false ∧
      ∀ left ∈ "not found".toList.inits, left ≠ [] → ¬ left <:+ chars.map Char.toLower) :
    ClearOfMarkers (String.ofList chars) := by
  unfold ClearOfMarkers ClearOf contains
  rw [String.toList_ofList, String.toList_ofList, String.toList_ofList]
  exact ⟨plain, codes, words⟩

theorem contains_append_of_clear {marker front : String} (clear : ClearOf marker front) (back : String) :
    contains (front ++ back) marker = contains back marker :=
  contains_append_apart front back marker clear.1 clear.2

section Texts

variable [UnicodeTables]

theorem saysNotFound_append {front : String} (clear : ClearOfMarkers front) (back : String) :
    saysNotFound (front ++ back) = saysNotFound back := by
  obtain ⟨plain, codes, words⟩ := clear
  have shared : mqscNotFoundCodes.any (contains (toUpper (front ++ back))) =
      mqscNotFoundCodes.any (contains (toUpper back)) := by
    rw [toUpper_append, toUpper_of_plain front plain, Bool.eq_iff_iff, List.any_eq_true, List.any_eq_true]
    refine exists_congr fun code => and_congr_right fun listed => ?_
    rw [contains_append_of_clear (codes code listed)]
  have ending : contains (toLower (front ++ back)) "not found" = contains (toLower back) "not found" := by
    rw [toLower_append, toLower_of_plain front plain]
    exact contains_append_of_clear words (toLower back)
  rw [saysNotFound, saysNotFound, shared, ending]

theorem saysNotFound_ofList (chars : List Char) (plain : chars.all isPlain = true)
    (codes : ∀ code ∈ mqscNotFoundCodes, (chars.map Char.toUpper).tails.any (code.toList.isPrefixOf ·) = false)
    (words : (chars.map Char.toLower).tails.any ("not found".toList.isPrefixOf ·) = false) :
    saysNotFound (String.ofList chars) = false := by
  have known : (String.ofList chars).toList.all isPlain = true := by rw [String.toList_ofList, plain]
  rw [saysNotFound, toUpper_of_plain _ known, toLower_of_plain _ known, String.toList_ofList, Bool.or_eq_false_iff]
  refine ⟨List.any_eq_false.mpr fun code listed => ?_, ?_⟩
  · rw [contains, String.toList_ofList, codes code listed]
    exact Bool.false_ne_true
  · rw [contains, String.toList_ofList]
    exact words

theorem saysNotFound_of_no_letters {text : String} (small : ∀ c ∈ text.toList, c.toNat < 65) :
    saysNotFound text = false := by
  have upper : 'A' ∉ (toUpper text).toList := by
    rw [toList_toUpper, List.mem_map]
    rintro ⟨c, member, becomes⟩
    have low := small c member
    rw [UnicodeTables.toUpper_ascii c (by omega), char_toUpper_eq_self c (by omega)] at becomes
    rw [becomes] at low
    exact absurd low (by decide)
  have lower : 'n' ∉ (toLower text).toList := by
    rw [toList_toLower, List.mem_map]
    rintro ⟨c, member, becomes⟩
    have low := small c member
    rw [UnicodeTables.toLower_ascii c (by omega), char_toLower_eq_self c (.inl low)] at becomes
    rw [becomes] at low
    exact absurd low (by decide)
  rw [saysNotFound, contains_eq_false_of_absent _ _ 'n' (by decide) lower, Bool.or_false]
  refine List.any_eq_false.mpr fun code listed => ?_
  have needed : 'A' ∈ code.toList := by
    revert code
    decide
  rw [contains_eq_false_of_absent _ _ 'A' needed upper]
  exact Bool.false_ne_true

theorem saysNotFound_status {front : String} (clear : ClearOfMarkers front) (status : Nat) :
    saysNotFound (front ++ toString status) = false := by
  rw [saysNotFound_append clear]
  refine saysNotFound_of_no_letters fun c member => ?_
  have digit := mem_toString_lt status member
  omega

theorem saysNotFound_dnMappingPrereq : saysNotFound dnMappingPrereq = false := by
  have joined : ∀ first second third : List Char,
      saysNotFound (String.ofList (first ++ second ++ third)) = false →
      saysNotFound (String.ofList first ++ String.ofList second ++ String.ofList third) = false := by
    intro first second third clear
    rwa [String.ofList_append, String.ofList_append] at clear
  exact joined _ _ _ (saysNotFound_ofList _ (by decide +kernel) (by decide +kernel) (by decide +kernel))

theorem ownFailure_not_missing {e : MqError} (own : OwnFailure e) : isMQSCNotFound e = false := by
  cases own with
  | circuitOpen => exact saysNotFound_ofList _ (by decide) (by decide) (by decide)
  | clientCertRejected => exact saysNotFound_dnMappingPrereq
  | noAnswer => exact saysNotFound_ofList _ (by decide) (by decide) (by decide)
  | retriesExhausted status =>
    exact saysNotFound_status (clearOfMarkers_ofList _ (by decide) (by decide) (by decide)) status
  | noCookie => exact saysNotFound_ofList _ (by decide) (by decide) (by decide)
  | loginRejected status =>
    change saysNotFound ("ltpa login rejected credentials (HTTP " ++ toString status ++ ")") = false
    rw [String.append_assoc, saysNotFound_append (clearOfMarkers_ofList _ (by decide) (by decide) (by decide))]
    refine saysNotFound_of_no_letters fun c member => ?_
    rw [String.toList_append, List.mem_append] at member
    rcases member with digit | close
    · have bound := mem_toString_lt status digit
      omega
    · rw [List.mem_singleton.mp close]
      decide
  | loginUnavailable status =>
    exact saysNotFound_status (clearOfMarkers_ofList _ (by decide) (by decide) (by decide)) status
  | loginUnexpected status =>
    exact saysNotFound_status (clearOfMarkers_ofList _ (by decide) (by decide) (by decide)) status

theorem unauthorized_not_missing (client : Client) {status : Nat} (refused : status = 401 ∨ status = 403) :
    isMQSCNotFound (.terminal .unauthorized (client.unauthorizedMessage (httpStatusMessage status))) = false := by
  change saysNotFound (client.unauthorizedMessage (httpStatusMessage status)) = false
  have answered : ClearOfMarkers (httpStatusMessage status) := by
    rcases refused with rfl | rfl
    · exact clearOfMarkers_ofList "mqweb returned HTTP 401".toList (by decide) (by decide) (by decide)
    · exact clearOfMarkers_ofList "mqweb returned HTTP 403".toList (by decide) (by decide) (by decide)
  have dash : ClearOfMarkers " — " := clearOfMarkers_ofList _ (by decide) (by decide) (by decide)
  unfold Client.unauthorizedMessage
  split
  · rw [String.append_assoc, saysNotFound_append answered, saysNotFound_append dash, saysNotFound_dnMappingPrereq]
  · exact saysNotFound_status (clearOfMarkers_ofList _ (by decide) (by decide) (by decide)) status

end Texts

section Outcomes

variable {σ : Type} (net : Network σ) (client : Client)

/-- The failure that a request ends in quotes a text from outside the commands of an MQSC response. -/
inductive OutsideText (request : MqscRequest) (w : Wire σ) : Prop
  | cause (e : MqError) (stopped : (roundTripWithReauth net client request).outcome w = .error e)
      (foreign : ForeignCause e)
  | unreadable (res : HttpResponse) (cause : String)
      (arrived : (roundTripWithReauth net client request).outcome w = .ok res) (unread : res.body = .error cause)
  | rejected (res : HttpResponse) (arrived : (roundTripWithReauth net client request).outcome w = .ok res)
      (low : 400 ≤ res.status) (high : res.status < 500) (other : ¬ (res.status = 401 ∨ res.status = 403))
  | undecodable (res : HttpResponse) (raw cause : String)
      (arrived : (roundTripWithReauth net client request).outcome w = .ok res) (read : res.body = .ok raw)
      (undecoded : net.unmarshal raw = .error cause)
  | restError (resp : MqscResponse) (answered : Answered net client request w resp)
      (quiet : ∀ item ∈ resp.commandResponse, item.message ++ item.text = []) (reported : resp.error ≠ [])

variable [UnicodeTables]

/-- The request ended in a failure that is no answer about the object, and in whose text `isMQSCNotFound` sees a marker of
a missing one. -/
structure Misread (request : MqscRequest) (w : Wire σ) : Prop where
  outside : OutsideText net client request w
  marked : ∃ e, (execute net client request).outcome w = .error e ∧ isMQSCNotFound e = true

/-- A line of one of the response's commands has a code of a missing object, or the words, in any case. -/
def NamesMissing (resp : MqscResponse) : Prop :=
  ∃ item ∈ resp.commandResponse, ∃ line ∈ item.message ++ item.text,
    (∃ code ∈ objectMissingCodes, contains (toUpper line) code = true) ∨ contains (toLower line) "not found" = true

/-- The response to the request reports success, or names the object as missing. -/
def ConfirmedGone (request : MqscRequest) (w : Wire σ) : Prop :=
  ∃ resp, Answered net client request w resp ∧ (resp.overallFailed = false ∨ NamesMissing resp)

theorem isObjectMissing_iff (resp : MqscResponse) : resp.isObjectMissing = true ↔ NamesMissing resp := by
  simp only [MqscResponse.isObjectMissing, MqscResponse.lineSaysMissing, NamesMissing, List.any_eq_true,
    Bool.or_eq_true]

inductive PostStop (request : MqscRequest) (w : Wire σ) : MqError → Prop
  | transport (e : MqError) (stopped : (roundTripWithReauth net client request).outcome w = .error e) :
      PostStop request w e
  | unauthorized (status : Nat) (refused : status = 401 ∨ status = 403) :
      PostStop request w (.terminal .unauthorized (client.unauthorizedMessage (httpStatusMessage status)))
  | unavailable (status : Nat) : PostStop request w (.transient (httpStatusMessage status))
  | quoted (e : MqError) (known : e.isNotFound = false) (text : OutsideText net client request w) :
      PostStop request w e
  | missing (resp : MqscResponse) (answered : Answered net client request w resp)
      (failed : resp.overallFailed = true) (named : resp.isObjectMissing = true) :
      PostStop request w (.notFound request.objectName)
  | failed (resp : MqscResponse) (answered : Answered net client request w resp)
      (failed : resp.overallFailed = true) (unnamed : resp.isObjectMissing = false) :
      PostStop request w (resp.terminalError "mqsc command failed")

variable {net client} {request : MqscRequest} {w : Wire σ}

theorem readMQSCResponse_cases {res : HttpResponse}
    (arrived : (roundTripWithReauth net client request).outcome w = .ok res) :
    (∃ resp, Answered net client request w resp) ∨
      ∃ failure, readMQSCResponse net client request res = .error failure ∧
        (failure.response = none ∧ failure.error.isNotFound = false) ∧ PostStop net client request w failure.error := by
  cases read : res.body with
  | error cause =>
    refine .inr ⟨_, by rw [readMQSCResponse, read], ⟨rfl, rfl⟩, ?_⟩
    exact .quoted _ rfl (.unreadable res cause arrived read)
  | ok raw =>
    by_cases refused : res.status = 401 ∨ res.status = 403
    · refine .inr ⟨_, by simp only [readMQSCResponse, read]; rw [if_pos refused], ⟨rfl, rfl⟩, ?_⟩
      exact .unauthorized res.status refused
    · by_cases high : 500 ≤ res.status
      · refine .inr ⟨_, by simp only [readMQSCResponse, read]; rw [if_neg refused, if_pos high], ⟨rfl, rfl⟩, ?_⟩
        exact .unavailable res.status
      · by_cases low : 400 ≤ res.status
        · refine .inr ⟨_, by simp only [readMQSCResponse, read]; rw [if_neg refused, if_neg high, if_pos low], ⟨rfl, rfl⟩, ?_⟩
          exact .quoted _ rfl (.rejected res arrived low (by omega) refused)
        · cases decoded : net.unmarshal raw with
          | error cause =>
            refine .inr ⟨_, by
              simp only [readMQSCResponse, read]
              rw [if_neg refused, if_neg high, if_neg low, decoded], ⟨rfl, rfl⟩, ?_⟩
            exact .quoted _ rfl (.undecodable res raw cause arrived read decoded)
          | ok resp => exact .inl ⟨resp, res, raw, arrived, read, by omega, decoded⟩

theorem execute_of_answered {resp : MqscResponse} (answered : Answered net client request w resp) :
    (execute net client request).outcome w =
      if resp.overallFailed then
        if resp.isObjectMissing then .error (.notFound request.objectName)
        else .error (resp.terminalError "mqsc command failed")
      else .ok () := by
  rw [outcome_execute, postMQSC_of_answered answered]
  cases resp.overallFailed
  · rfl
  · cases resp.isObjectMissing <;> rfl

theorem execute_error {e : MqError} (stopped : (execute net client request).outcome w = .error e) :
    PostStop net client request w e := by
  have fromAnswer : ∀ resp, Answered net client request w resp → PostStop net client request w e := by
    intro resp answered
    rw [execute_of_answered answered] at stopped
    cases failed : resp.overallFailed with
    | false =>
      rw [failed] at stopped
      cases stopped
    | true =>
      rw [failed] at stopped
      cases missing : resp.isObjectMissing with
      | true =>
        rw [missing] at stopped
        cases stopped
        exact .missing resp answered failed missing
      | false =>
        rw [missing] at stopped
        cases stopped
        exact .failed resp answered failed missing
  cases arrived : (roundTripWithReauth net client request).outcome w with
  | error e' =>
    rw [outcome_execute, outcome_postMQSC, arrived] at stopped
    cases stopped
    exact .transport _ arrived
  | ok res =>
    rcases readMQSCResponse_cases arrived with ⟨resp, answered⟩ | ⟨failure, read, -, why⟩
    · exact fromAnswer resp answered
    · rw [outcome_execute, outcome_postMQSC, arrived] at stopped
      simp only [read] at stopped
      cases stopped
      exact why

theorem execute_of_confirmedGone (gone : ConfirmedGone net client request w) :
    (execute net client request).outcome w = .ok () ∨
      (execute net client request).outcome w = .error (.notFound request.objectName) := by
  obtain ⟨resp, answered, why⟩ := gone
  rw [execute_of_answered answered]
  cases failed : resp.overallFailed with
  | false => exact .inl rfl
  | true =>
    rcases why with success | named
    · rw [failed] at success
      cases success
    · rw [(isObjectMissing_iff resp).mpr named]
      exact .inr rfl

theorem PostStop.confirmedGone {e : MqError} (stop : PostStop net client request w e) (missing : e.isNotFound = true) :
    ConfirmedGone net client request w := by
  cases stop with
  | transport e stopped =>
    have known := (roundTripWithReauth_fails net client request w e stopped).not_notFound
    rw [missing] at known
    cases known
  | unauthorized status refused => cases missing
  | unavailable status => cases missing
  | quoted e known text =>
    rw [missing] at known
    cases known
  | missing resp answered failed named => exact ⟨resp, answered, .inr ((isObjectMissing_iff resp).mp named)⟩
  | failed resp answered failed unnamed => cases missing

theorem lineSaysMissing_of_saysNotFound {line : String} (found : saysNotFound line = true) :
    MqscResponse.lineSaysMissing line = true := by
  simp only [saysNotFound, MqscResponse.lineSaysMissing, Bool.or_eq_true, List.any_eq_true] at found ⊢
  refine found.imp_left fun ⟨code, listed, inside⟩ => ⟨code, ?_, inside⟩
  have included : ∀ known ∈ mqscNotFoundCodes, known ∈ objectMissingCodes := by decide
  exact included code listed

theorem terminalError_classified {resp : MqscResponse} (unnamed : resp.isObjectMissing = false)
    (found : isMQSCNotFound (resp.terminalError "mqsc command failed") = true) :
    (∀ item ∈ resp.commandResponse, item.message ++ item.text = []) ∧ resp.error ≠ [] := by
  have message : saysNotFound resp.firstMessage = true := by
    have whole : saysNotFound ("mqsc command failed" ++ ": " ++ resp.firstMessage) = true := found
    have clear : ClearOfMarkers ("mqsc command failed" ++ ": ") :=
      clearOfMarkers_ofList "mqsc command failed: ".toList (by decide) (by decide) (by decide)
    rwa [saysNotFound_append clear] at whole
  unfold MqscResponse.firstMessage at message
  cases first : resp.commandResponse.findSome? fun item => (item.message ++ item.text).head? with
  | some line =>
    obtain ⟨item, member, head⟩ := List.exists_of_findSome?_eq_some first
    have clean : MqscResponse.lineSaysMissing line = false := by
      have lines := List.any_eq_false.mp unnamed item member
      rw [Bool.not_eq_true] at lines
      exact Bool.not_eq_true _ ▸ List.any_eq_false.mp lines line (List.mem_of_mem_head? head)
    rw [first] at message
    rw [lineSaysMissing_of_saysNotFound message] at clean
    cases clean
  | none =>
    refine ⟨fun item member => List.head?_eq_none_iff.mp (List.findSome?_eq_none_iff.mp first item member), ?_⟩
    intro none_reported
    rw [first, none_reported] at message
    have unknown : saysNotFound "unknown mqsc error" = false :=
      saysNotFound_ofList _ (by decide) (by decide) (by decide)
    rw [unknown] at message
    cases message

theorem PostStop.classified {e : MqError} (stop : PostStop net client request w e)
    (forgiven : (e.isNotFound || isMQSCNotFound e) = true) :
    ConfirmedGone net client request w ∨ (OutsideText net client request w ∧ isMQSCNotFound e = true) := by
  cases missing : e.isNotFound with
  | true => exact .inl (stop.confirmedGone missing)
  | false =>
    rw [missing, Bool.false_or] at forgiven
    have clean : isMQSCNotFound e = false →
        ConfirmedGone net client request w ∨ (OutsideText net client request w ∧ isMQSCNotFound e = true) := by
      intro clear
      rw [clear] at forgiven
      cases forgiven
    cases stop with
    | transport e stopped =>
      rcases roundTripWithReauth_fails net client request w e stopped with own | foreign
      · exact clean (ownFailure_not_missing own)
      · exact .inr ⟨.cause e stopped foreign, forgiven⟩
    | unauthorized status refused => exact clean (unauthorized_not_missing client refused)
    | unavailable status => exact clean (ownFailure_not_missing (.retriesExhausted status))
    | quoted e known text => exact .inr ⟨text, forgiven⟩
    | missing resp answered failed named => cases missing
    | failed resp answered failed unnamed =>
      obtain ⟨quiet, reported⟩ := terminalError_classified unnamed forgiven
      exact .inr ⟨.restError resp answered quiet reported, forgiven⟩

theorem deleteObject_ok_iff (qualifier name : String) :
    (deleteObject net client qualifier name).outcome w = .ok () ↔
      ConfirmedGone net client (deleteRequest qualifier name) w := by
  rw [deleteObject, outcome_forgive_ok_iff]
  constructor
  · rintro (done | ⟨e, stopped, missing⟩)
    · obtain ⟨resp, answered, success⟩ := execute_ok done
      exact ⟨resp, answered, .inl success⟩
    · exact (execute_error stopped).confirmedGone missing
  · intro gone
    rcases execute_of_confirmedGone gone with done | missing
    · exact .inl done
    · exact .inr ⟨_, missing, rfl⟩

/-- The deletion of a record through a built command: its errors, when it must succeed, and when it may. -/
def DeletesRecord (net : Network σ) (client : Client) (w : Wire σ) (built : Except MqError String)
    (result : Except MqError Unit) : Prop :=
  match built with
  | .error e => result = .error e
  | .ok command =>
    (ConfirmedGone net client (.runCommand command) w → result = .ok ()) ∧
    (result = .ok () → ConfirmedGone net client (.runCommand command) w ∨ Misread net client (.runCommand command) w)

theorem deletesRecord_built (built : Except MqError String) :
    DeletesRecord net client w built
      ((do let command ← Fallible.ofExcept built; runMQSCAllowNotFound net client command :
        Fallible (Wire σ) MqError Unit).outcome w) := by
  cases built with
  | error e => rfl
  | ok command =>
    have run : ((do let command ← Fallible.ofExcept (.ok command); runMQSCAllowNotFound net client command :
        Fallible (Wire σ) MqError Unit).outcome w) = (runMQSCAllowNotFound net client command).outcome w := rfl
    rw [run, runMQSCAllowNotFound, runMQSC]
    constructor
    · intro gone
      rw [outcome_forgive_ok_iff]
      rcases execute_of_confirmedGone gone with done | missing
      · exact .inl done
      · exact .inr ⟨_, missing, rfl⟩
    · intro done
      rcases (outcome_forgive_ok_iff _ _ _).mp done with success | ⟨e, stopped, forgiven⟩
      · obtain ⟨resp, answered, good⟩ := execute_ok success
        exact .inl ⟨resp, answered, .inl good⟩
      · exact ((execute_error stopped).classified forgiven).imp_right fun misread => ⟨misread.1, e, stopped, misread.2⟩

end Outcomes

/-- Queues, topics and channels count as deleted exactly when mqweb answered that they are gone. The records do then
too, and otherwise only after a failure whose text from outside the response has a marker of a missing object. -/
theorem delete_succeeds_when_gone [UnicodeTables] {σ : Type} (net : Network σ) (client : Client) (w : Wire σ) :
    (∀ spec : MqAdmin.QueueSpec, (deleteQueue net client spec).outcome w = .ok () ↔
      validateQueueType spec.type = .ok () ∧
        ConfirmedGone net client (deleteRequest (queueQualifier spec.type) spec.name) w) ∧
    (∀ name : String, (deleteTopic net client name).outcome w = .ok () ↔
      ConfirmedGone net client (deleteRequest qualifierTopic name) w) ∧
    (∀ spec : MqAdmin.ChannelSpec, (deleteChannel net client spec).outcome w = .ok () ↔
      ConfirmedGone net client (deleteRequest qualifierChannel spec.name) w) ∧
    (∀ spec : ChannelAuthSpec, DeletesRecord net client w (buildSetChannelAuthMQSC spec mqscActionRemove)
      ((deleteChannelAuth net client spec).outcome w)) ∧
    (∀ spec : AuthoritySpec, DeletesRecord net client w (buildSetAuthorityMQSC spec true)
      ((deleteAuthority net client spec).outcome w)) := by
  refine ⟨fun spec => ?_, fun name => deleteObject_ok_iff qualifierTopic name,
    fun spec => deleteObject_ok_iff qualifierChannel spec.name,
    fun spec => deletesRecord_built _, fun spec => deletesRecord_built _⟩
  rw [deleteQueue, outcome_bind, outcome_ofExcept, after_ofExcept]
  cases validateQueueType spec.type with
  | error e => simp
  | ok valid => simp [deleteObject_ok_iff]

section Cases

attribute [local instance] asciiTables

def answering (response : MqscResponse) : Network Unit where
  now _ := 0
  sleepWithContext _ s := (none, s)
  send _ _ s := (.answered ⟨200, .ok ""⟩, s)
  login _ s := (.answered 200 ["LtpaToken2"], s)
  unmarshal _ := .ok response
  errorMsgIDs _ := []

def freshWire : Wire Unit := ⟨newCircuitBreaker 5 30000000000, ⟨[], 0⟩, ()⟩

def failedCommand (message : String) : MqscResponse where
  commandResponse := [⟨2, [message], [], ∅⟩]
  overallCompletionCode := 2
  error := []

/-- A failed command with none of the three codes, whose message merely has the words, counts as a deletion. -/
theorem deleteQueue_forgives_words :
    (failedCommand "AMQ8101: object not found").overallFailed = true ∧
      (∀ code ∈ ["AMQ8147", "AMQ8884", "AMQ8958"], contains (toUpper "AMQ8101: object not found") code = false) ∧
      (deleteQueue (answering (failedCommand "AMQ8101: object not found")) basicClient ⟨"ORDERS", .localQueue, ∅⟩).outcome
        freshWire = .ok () :=
  ⟨rfl, by decide, rfl⟩

end Cases

end MKurator.MqRest
