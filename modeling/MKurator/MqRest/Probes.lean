import MKurator.MqRest.Deletion
import Mathlib.Data.String.Basic

/-! The display probes of local queues: how one is classified, the cache in front of them, and GetQueue behind them. -/

namespace MKurator.MqRest
open MKurator.Api MKurator.MqAdmin MKurator.Lib MKurator.Lib.Strings

def mqwbAttributeNotDisplayable : String := "MQWB0120"
def mqscCommandDisplay : String := "display"
def qualifierQLocal : String := "qlocal"
def defaultQueueLocalDisplayProbeObject : String := "SYSTEM.DEFAULT.LOCAL.QUEUE"

structure ProbeWire (σ : Type) where
  wire : Wire σ
  displayProbeCache : AList fun _ : String => Bool

def ProbeWire.onWire {σ α : Type} (act : Fallible (Wire σ) MqError α) : Fallible (ProbeWire σ) MqError α :=
  Fallible.focus ProbeWire.wire (fun s wire => { s with wire }) act

def queueDisplayRequest (spec : MqAdmin.QueueSpec) (responseParameters : List String) : MqscRequest :=
  .runCommandJSON mqscCommandDisplay (queueQualifier spec.type) spec.name responseParameters ∅

section Case

variable [UnicodeTables]

def queueAttributeDisplayProbeRequest (queueName attr : String) : MqscRequest :=
  .runCommandJSON mqscCommandDisplay qualifierQLocal queueName [toLower attr] ∅

/-- The texts of a response, in which mqweb may say why it failed. -/
def MqscResponse.texts (r : MqscResponse) : List String :=
  (r.commandResponse.flatMap fun item => item.message ++ item.text) ++ r.error.flatMap fun e => [e.message, e.explanation]

def responseIndicatesAttributeNotDisplayable : Option MqscResponse → Bool
  | none => false
  | some resp => resp.texts.any fun msg => contains (toUpper msg) mqwbAttributeNotDisplayable

def errIndicatesAttributeNotDisplayable (e : MqError) : Bool :=
  (match e.asTerminal with
    | some (reason, message) => contains (toUpper (message ++ " " ++ reason.text)) mqwbAttributeNotDisplayable
    | none => false) ||
  contains (toUpper e.text) mqwbAttributeNotDisplayable

/-- What the answer to a probe means: success shows the attribute, MQWB0120 says that it cannot be shown. -/
def judgeProbe (queueName attr : String) : Except PostFailure MqscResponse → Except MqError Bool
  | .ok _ => .ok true
  | .error failure =>
    if responseIndicatesAttributeNotDisplayable failure.response || errIndicatesAttributeNotDisplayable failure.error then
      .ok false
    else if failure.response.any MqscResponse.isObjectMissing then .error (.notFound queueName)
    else .error (.wrapped ("probe display qlocal " ++ quote queueName ++ " attribute " ++ quote attr) failure.error)

variable {σ : Type} (net : Network σ) (client : Client)

def probeQueueLocalAttributeDisplayable (queueName attr : String) : Fallible (Wire σ) MqError Bool :=
  let queueName := trimSpace queueName
  let attr := toLower (trimSpace attr)
  if queueName = "" then throw (.terminal .invalidArgument "queue name is required")
  else if attr = "" then throw (.terminal .invalidArgument "attribute is required")
  else Fallible.settle (judgeProbe queueName attr)
    (postMQSC net client (queueAttributeDisplayProbeRequest queueName attr))

/-- A probe that another one has not made superfluous; an error leaves no trace in the cache. -/
def probeQueueLocalDisplayableCached (attr : String) : Fallible (ProbeWire σ) MqError Bool := do
  match ← Fallible.step fun s : ProbeWire σ => (s.displayProbeCache.lookup attr, s) with
  | some displayable => return displayable
  | none =>
    let displayable ←
      ProbeWire.onWire (probeQueueLocalAttributeDisplayable net client defaultQueueLocalDisplayProbeObject attr)
    Fallible.step fun s => ((), { s with displayProbeCache := s.displayProbeCache.insert attr displayable })
    return displayable

def resolveCandidates : List String → List String → Fallible (ProbeWire σ) MqError (List String)
  | [], base => return base
  | attr :: candidates, base => do
    let displayable ← (probeQueueLocalDisplayableCached net client attr).mapError
      (.wrapped ("probe qlocal display " ++ quote attr))
    resolveCandidates candidates (if displayable then base ++ [attr] else base)

def Client.queueLocalDisplayParametersResolved : Fallible (ProbeWire σ) MqError (List String) :=
  resolveCandidates net client queueLocalDefineOnlyCandidates queueLocalDisplayParameters

def resolveQueueDriftCheckKeys (type : QueueType) : Fallible (ProbeWire σ) MqError (List String) :=
  if normalizeQueueType type ≠ .localQueue then return queueDisplayParameters type
  else Client.queueLocalDisplayParametersResolved net client

def Client.queueDisplayParametersForGet (type : QueueType) : Fallible (ProbeWire σ) MqError (List String) :=
  if normalizeQueueType type ≠ .localQueue then return queueDisplayParameters type
  else Client.queueLocalDisplayParametersResolved net client

def getQueue (spec : MqAdmin.QueueSpec) : Fallible (ProbeWire σ) MqError QueueState := do
  Fallible.ofExcept (validateQueueType spec.type)
  let displayParams ← Client.queueDisplayParametersForGet net client spec.type
  let resp ← ProbeWire.onWire
    ((postMQSC net client (queueDisplayRequest spec displayParams)).mapError PostFailure.error)
  let attrs ← (Fallible.ofExcept resp.firstObjectAttributes).mapError fun e =>
    if e.isNotFound then .notFound spec.name else e
  return ⟨spec.name, normalizeQueueAttributes attrs spec.type⟩

end Case

theorem takeBytes_append_of_long (front back : List Char) (n : Nat) (long : n ≤ String.utf8Len front) :
    takeBytes n (front ++ back) <+: front := by
  induction front generalizing n with
  | nil =>
    have none_left : n = 0 := Nat.le_zero.mp long
    subst none_left
    cases back with
    | nil => exact List.prefix_rfl
    | cons c rest => rw [List.nil_append, takeBytes, if_neg (Nat.not_le.mpr c.utf8Size_pos)]
  | cons c rest ih =>
    rw [List.cons_append, takeBytes]
    split
    · rw [String.utf8Len_cons] at long
      exact List.cons_prefix_cons.mpr ⟨rfl, ih (n - c.utf8Size) (by omega)⟩
    · exact List.nil_prefix

theorem contains_truncate_of_long [UnicodeTables] {front back : List Char} {n : Nat} {sub : String} {c : Char}
    (long : n < String.utf8Len front) (needed : c ∈ sub.toList) (absent : c ∉ front.map UnicodeTables.toUpper)
    (dots : c ≠ '.') : contains (toUpper (truncate (String.ofList (front ++ back)) n)) sub = false := by
  have cut : ¬ (String.ofList (front ++ back)).utf8ByteSize ≤ n := by
    rw [String.utf8ByteSize_ofList, String.utf8Len_append]
    omega
  have kept := takeBytes_append_of_long front back n long.le
  have ellipsis : toUpper "..." = "..." := (toUpper_of_plain _ (by decide)).trans (by decide)
  refine contains_eq_false_of_absent _ _ c needed ?_
  rw [truncate, if_neg cut, toUpper_append, ellipsis, String.toList_append, List.mem_append, not_or, toList_toUpper,
    String.toList_ofList, String.toList_ofList]
  constructor
  · exact fun member => absent ((kept.map _).subset member)
  · intro member
    have letters : "...".toList = List.replicate 3 '.' := by decide
    rw [letters] at member
    exact dots (List.eq_of_mem_replicate member)

section Classification

open Fallible

variable [UnicodeTables]

theorem toUpper_notDisplayable : toUpper mqwbAttributeNotDisplayable = mqwbAttributeNotDisplayable :=
  (toUpper_of_plain _ (by decide)).trans (by decide)

theorem errIndicates_terminal (reason : TerminalReason) (message : String) :
    errIndicatesAttributeNotDisplayable (.terminal reason message) =
      (contains (toUpper (message ++ " " ++ reason.text)) mqwbAttributeNotDisplayable ||
        contains (toUpper message) mqwbAttributeNotDisplayable) :=
  rfl

theorem errIndicates_badRequest (raw : String) :
    errIndicatesAttributeNotDisplayable (.terminal .badRequest (httpStatusMessage 400 ++ ": " ++ truncate raw 200)) =
      contains (toUpper (truncate raw 200)) mqwbAttributeNotDisplayable := by
  have opening : toUpper (httpStatusMessage 400 ++ ": ") = "MQWEB RETURNED HTTP 400: " :=
    (toUpper_of_plain _ (by decide)).trans (by decide)
  have closing : toUpper (" " ++ TerminalReason.badRequest.text) = " BADREQUEST" :=
    (toUpper_of_plain _ (by decide)).trans (by decide)
  have message : contains (toUpper (httpStatusMessage 400 ++ ": " ++ truncate raw 200)) mqwbAttributeNotDisplayable =
      contains (toUpper (truncate raw 200)) mqwbAttributeNotDisplayable := by
    rw [toUpper_append, opening]
    exact contains_append_apart _ _ _ (by decide) (by decide)
  have reasoned : contains (toUpper (httpStatusMessage 400 ++ ": " ++ truncate raw 200 ++ " " ++
      TerminalReason.badRequest.text)) mqwbAttributeNotDisplayable =
      contains (toUpper (truncate raw 200)) mqwbAttributeNotDisplayable := by
    rw [String.append_assoc, toUpper_append, closing, contains_append_before _ _ _ (by decide) (by decide), message]
  rw [errIndicates_terminal, reasoned, message, Bool.or_self]

variable {σ : Type} {net : Network σ} {client : Client} {w : Wire σ}

theorem postMQSC_of_badRequest {request : MqscRequest} {res : HttpResponse} {raw : String}
    (arrived : (roundTripWithReauth net client request).outcome w = .ok res) (body : res.body = .ok raw)
    (status : res.status = 400) :
    (postMQSC net client request).outcome w =
      .error ⟨.terminal .badRequest (httpStatusMessage 400 ++ ": " ++ truncate raw 200), none⟩ := by
  rw [outcome_postMQSC, arrived]
  simp only [readMQSCResponse, body, status]
  rfl

variable (net client w) (queueName attr : String)

def probeRequest : MqscRequest :=
  queueAttributeDisplayProbeRequest (trimSpace queueName) (toLower (trimSpace attr))

/-- MQWB0120 makes the attribute one that cannot be shown, wherever it stands, and only a success shows it. -/
structure Classifies : Prop where
  badRequest : ∀ res raw, (roundTripWithReauth net client (probeRequest queueName attr)).outcome w = .ok res →
    res.body = .ok raw → res.status = 400 → contains raw mqwbAttributeNotDisplayable = true →
      (probeQueueLocalAttributeDisplayable net client queueName attr).outcome w = .ok false
  failed : ∀ resp, Answered net client (probeRequest queueName attr) w resp → resp.overallFailed = true →
    (∃ text ∈ resp.texts, contains text mqwbAttributeNotDisplayable = true) →
      (probeQueueLocalAttributeDisplayable net client queueName attr).outcome w = .ok false
  shown : (probeQueueLocalAttributeDisplayable net client queueName attr).outcome w = .ok true →
    ∃ resp, Answered net client (probeRequest queueName attr) w resp ∧ resp.overallFailed = false

variable {net client w queueName attr}

theorem outcome_probe (named : trimSpace queueName ≠ "") (given : trimSpace attr ≠ "") :
    (probeQueueLocalAttributeDisplayable net client queueName attr).outcome w =
      judgeProbe (trimSpace queueName) (toLower (trimSpace attr))
        ((postMQSC net client (probeRequest queueName attr)).outcome w) := by
  have lower : toLower (trimSpace attr) ≠ "" := mt (toLower_eq_empty_iff _).mp given
  rw [probeQueueLocalAttributeDisplayable]
  simp only [if_neg named, if_neg lower]
  rfl

theorem judgeProbe_true {result : Except PostFailure MqscResponse} {queueName attr : String}
    (shown : judgeProbe queueName attr result = .ok true) : ∃ resp, result = .ok resp := by
  cases result with
  | ok resp => exact ⟨resp, rfl⟩
  | error failure =>
    rw [judgeProbe] at shown
    split at shown
    · cases shown
    · split at shown <;> cases shown

theorem outcome_probe_badRequest (named : trimSpace queueName ≠ "") (given : trimSpace attr ≠ "") {res : HttpResponse}
    {raw : String} (arrived : (roundTripWithReauth net client (probeRequest queueName attr)).outcome w = .ok res)
    (body : res.body = .ok raw) (status : res.status = 400) :
    (probeQueueLocalAttributeDisplayable net client queueName attr).outcome w = .ok false ↔
      contains (toUpper (truncate raw 200)) mqwbAttributeNotDisplayable = true := by
  rw [outcome_probe named given, postMQSC_of_badRequest arrived body status, judgeProbe, errIndicates_badRequest]
  cases contains (toUpper (truncate raw 200)) mqwbAttributeNotDisplayable with
  | true => exact iff_of_true rfl rfl
  | false => exact iff_of_false (fun done => nomatch done) Bool.false_ne_true

/-- A probe is classified right exactly when the code of an HTTP 400 stands in the part of its body that is kept. -/
theorem classifies_iff (named : trimSpace queueName ≠ "") (given : trimSpace attr ≠ "") :
    Classifies net client w queueName attr ↔
      ∀ res raw, (roundTripWithReauth net client (probeRequest queueName attr)).outcome w = .ok res →
        res.body = .ok raw → res.status = 400 → contains raw mqwbAttributeNotDisplayable = true →
          contains (toUpper (truncate raw 200)) mqwbAttributeNotDisplayable = true := by
  constructor
  · intro classifies res raw arrived body status inside
    exact (outcome_probe_badRequest named given arrived body status).mp
      (classifies.badRequest res raw arrived body status inside)
  · intro kept
    refine ⟨?_, ?_, ?_⟩
    · intro res raw arrived body status inside
      exact (outcome_probe_badRequest named given arrived body status).mpr (kept res raw arrived body status inside)
    · intro resp answered failure texts
      have indicated : responseIndicatesAttributeNotDisplayable (some resp) = true := by
        obtain ⟨text, member, inside⟩ := texts
        exact List.any_eq_true.mpr ⟨text, member, contains_toUpper toUpper_notDisplayable inside⟩
      rw [outcome_probe named given, postMQSC_of_answered answered, if_pos failure]
      split
      · rw [judgeProbe, indicated]
        rfl
      · rw [judgeProbe, indicated]
        rfl
    · intro done
      rw [outcome_probe named given] at done
      obtain ⟨resp, posted⟩ := judgeProbe_true done
      exact ⟨resp, postMQSC_ok posted⟩

end Classification

def rejecting (body : String) : Network Unit :=
  { answering (failedCommand "") with send := fun _ _ s => (.answered ⟨400, .ok body⟩, s) }

def explanation : List Char := "\x7b\"error\":[\x7b\"explanation\":\"".toList ++ List.replicate 200 'x'

def wordyError : String := String.ofList (explanation ++ "\",\"msgId\":\"MQWB0120E\"\x7d]\x7d".toList)

theorem contains_wordyError : contains wordyError mqwbAttributeNotDisplayable = true := by
  have code : contains "\",\"msgId\":\"MQWB0120E\"\x7d]\x7d" mqwbAttributeNotDisplayable = true := by decide
  rw [wordyError, String.ofList_append, String.ofList_toList]
  exact contains_append_right _ _ _ code

section Cases

attribute [local instance] asciiTables

theorem truncate_wordyError : contains (toUpper (truncate wordyError 200)) mqwbAttributeNotDisplayable = false := by
  have long : 200 < String.utf8Len explanation := by decide +kernel
  have absent : '2' ∉ explanation.map UnicodeTables.toUpper := by decide +kernel
  exact contains_truncate_of_long long (by decide) absent (by decide)

/-- The code behind a long explanation is cut off before it is looked for. -/
theorem wordyError_not_classified :
    ¬ Classifies (rejecting wordyError) basicClient freshWire "APP.Q" "maxmsglen" := by
  intro classifies
  have named : trimSpace "APP.Q" ≠ "" := by decide
  have given : trimSpace "maxmsglen" ≠ "" := by decide
  have refused := classifies.badRequest ⟨400, .ok wordyError⟩ wordyError rfl rfl rfl contains_wordyError
  rw [outcome_probe_badRequest named given rfl rfl rfl, truncate_wordyError] at refused
  cases refused

/-- The body of the repository's own test is short enough. -/
theorem classifies_briefError :
    Classifies (rejecting "\x7b\"error\":[\x7b\"msgId\":\"MQWB0120E\"\x7d]\x7d") basicClient freshWire "APP.Q" "maxmsglen" := by
  refine (classifies_iff (by decide) (by decide)).mpr ?_
  intro res raw arrived body _ inside
  obtain rfl : (⟨400, .ok "\x7b\"error\":[\x7b\"msgId\":\"MQWB0120E\"\x7d]\x7d"⟩ : HttpResponse) = res :=
    Except.ok.inj arrived
  obtain rfl : "\x7b\"error\":[\x7b\"msgId\":\"MQWB0120E\"\x7d]\x7d" = raw := Except.ok.inj body
  decide +kernel

end Cases

theorem isNotFound_wrapped (context : String) (e : MqError) : (MqError.wrapped context e).isNotFound = e.isNotFound := by
  rw [MqError.isNotFound, MqError.chain, List.any_cons, Bool.false_or, MqError.isNotFound]

section Presence

open Fallible

variable [UnicodeTables] {σ : Type} (net : Network σ) (client : Client)

def ReportsMissing (request : MqscRequest) (w : Wire σ) (resp : MqscResponse) : Prop :=
  Answered net client request w resp ∧ resp.overallFailed = true ∧ resp.isObjectMissing = true

/-- The queue's own DISPLAY said that it is missing, or showed no object. -/
def QueueAbsent (spec : MqAdmin.QueueSpec) (s : ProbeWire σ) : Prop :=
  ∃ params, (Client.queueDisplayParametersForGet net client spec.type).outcome s = .ok params ∧
    ∃ resp, ReportsMissing net client (queueDisplayRequest spec params)
        ((Client.queueDisplayParametersForGet net client spec.type).after s).wire resp ∨
      Answered net client (queueDisplayRequest spec params)
        ((Client.queueDisplayParametersForGet net client spec.type).after s).wire resp ∧
        resp.overallFailed = false ∧ resp.commandResponse = []

/-- The probes that the loop sends, each with the wire before it: not those in the cache, none after one that failed. -/
def probesFrom : List String → ProbeWire σ → List (String × Wire σ)
  | [], _ => []
  | attr :: candidates, s =>
    match s.displayProbeCache.lookup attr with
    | some _ => probesFrom candidates s
    | none => (attr, s.wire) :: match (probeQueueLocalDisplayableCached net client attr).outcome s with
      | .ok _ => probesFrom candidates ((probeQueueLocalDisplayableCached net client attr).after s)
      | .error _ => []

/-- mqweb answered the probe of an attribute that the queue it probes is missing. -/
def ProbeObjectMissing (attr : String) (w : Wire σ) : Prop :=
  ∃ resp, ReportsMissing net client (probeRequest defaultQueueLocalDisplayProbeObject attr) w resp ∧
    responseIndicatesAttributeNotDisplayable (some resp) = false

variable {net client}

theorem errIndicates_notFound (object : String) :
    errIndicatesAttributeNotDisplayable (.notFound object) =
      contains (toUpper (MqError.notFound object).text) mqwbAttributeNotDisplayable := by
  have searched : errIndicatesAttributeNotDisplayable (.notFound object) =
      (false || contains (toUpper (MqError.notFound object).text) mqwbAttributeNotDisplayable) := rfl
  rw [searched, Bool.false_or]

theorem errIndicates_probeObject :
    errIndicatesAttributeNotDisplayable (.notFound defaultQueueLocalDisplayProbeObject) = false := by
  have raised : toUpper ("mq object " ++ ("\"" ++ defaultQueueLocalDisplayProbeObject ++ "\"") ++ " not found") =
      "MQ OBJECT \"SYSTEM.DEFAULT.LOCAL.QUEUE\" NOT FOUND" :=
    (toUpper_of_plain _ (by decide)).trans (by decide)
  have text : ∀ object, (MqError.notFound object).text = "mq object " ++ quote object ++ " not found" := fun _ => rfl
  rw [errIndicates_notFound, text, quote_of_printable defaultQueueLocalDisplayProbeObject (by decide), raised]
  decide

theorem postMQSC_error {request : MqscRequest} {w : Wire σ} {failure : PostFailure}
    (stopped : (postMQSC net client request).outcome w = .error failure) :
    (failure.response = none ∧ failure.error.isNotFound = false) ∨
      ∃ resp, Answered net client request w resp ∧ resp.overallFailed = true := by
  cases arrived : (roundTripWithReauth net client request).outcome w with
  | error e =>
    rw [outcome_postMQSC, arrived] at stopped
    cases stopped
    exact .inl ⟨rfl, (roundTripWithReauth_fails net client request w e arrived).not_notFound⟩
  | ok res =>
    rcases readMQSCResponse_cases arrived with ⟨resp, answered⟩ | ⟨other, read, unanswered, -⟩
    · refine .inr ⟨resp, answered, ?_⟩
      by_contra success
      rw [postMQSC_of_answered answered, if_neg success] at stopped
      cases stopped
    · rw [outcome_postMQSC, arrived] at stopped
      simp only [read] at stopped
      cases stopped
      exact .inl unanswered

theorem postMQSC_notFound_iff {request : MqscRequest} {w : Wire σ} :
    (∃ failure, (postMQSC net client request).outcome w = .error failure ∧ failure.error.isNotFound = true) ↔
      ∃ resp, ReportsMissing net client request w resp := by
  constructor
  · rintro ⟨failure, stopped, absent⟩
    rcases postMQSC_error stopped with ⟨-, present⟩ | ⟨resp, answered, failed⟩
    · rw [absent] at present
      cases present
    · rw [postMQSC_of_answered answered, if_pos failed] at stopped
      cases missing : resp.isObjectMissing with
      | true => exact ⟨resp, answered, failed, missing⟩
      | false =>
        rw [missing] at stopped
        cases stopped
        cases absent
  · rintro ⟨resp, answered, failed, missing⟩
    exact ⟨_, (postMQSC_of_answered answered).trans (by rw [if_pos failed, if_pos missing]), rfl⟩

theorem probe_notFound_iff {attr : String} (given : trimSpace attr ≠ "") {w : Wire σ} :
    (∃ e, (probeQueueLocalAttributeDisplayable net client defaultQueueLocalDisplayProbeObject attr).outcome w = .error e ∧
      e.isNotFound = true) ↔ ProbeObjectMissing net client attr w := by
  have named : trimSpace defaultQueueLocalDisplayProbeObject = defaultQueueLocalDisplayProbeObject := by decide
  have wanted : trimSpace defaultQueueLocalDisplayProbeObject ≠ "" := by decide
  rw [outcome_probe wanted given]
  constructor
  · rintro ⟨e, stopped, absent⟩
    cases posted : (postMQSC net client (probeRequest defaultQueueLocalDisplayProbeObject attr)).outcome w with
    | ok resp =>
      rw [posted] at stopped
      cases stopped
    | error failure =>
      rw [posted, judgeProbe] at stopped
      split at stopped
      · cases stopped
      next other =>
        rw [Bool.or_eq_true, not_or, Bool.not_eq_true, Bool.not_eq_true] at other
        rcases postMQSC_error posted with ⟨unanswered, present⟩ | ⟨resp, answered, failed⟩
        · rw [unanswered] at stopped
          cases stopped
          rw [isNotFound_wrapped, present] at absent
          cases absent
        · rw [postMQSC_of_answered answered, if_pos failed] at posted
          cases missing : resp.isObjectMissing with
          | true =>
            rw [missing] at posted
            cases posted
            exact ⟨resp, ⟨answered, failed, missing⟩, other.1⟩
          | false =>
            rw [missing] at posted
            cases posted
            rw [Option.any_some, missing] at stopped
            cases stopped
            rw [isNotFound_wrapped] at absent
            cases absent
  · rintro ⟨resp, ⟨answered, failed, missing⟩, unsaid⟩
    have object : (probeRequest defaultQueueLocalDisplayProbeObject attr).objectName =
        defaultQueueLocalDisplayProbeObject := named
    rw [postMQSC_of_answered answered, if_pos failed, if_pos missing, judgeProbe, unsaid, object,
      errIndicates_probeObject, Option.any_some, missing]
    exact ⟨_, rfl, rfl⟩

section Cache

variable {attr : String} {s : ProbeWire σ}

theorem outcome_probeCached_hit {displayable : Bool} (known : s.displayProbeCache.lookup attr = some displayable) :
    (probeQueueLocalDisplayableCached net client attr).outcome s = .ok displayable := by
  rw [probeQueueLocalDisplayableCached, outcome_bind, outcome_step]
  simp only [known, outcome_pure]

theorem after_probeCached_hit {displayable : Bool} (known : s.displayProbeCache.lookup attr = some displayable) :
    (probeQueueLocalDisplayableCached net client attr).after s = s := by
  rw [probeQueueLocalDisplayableCached, after_bind, outcome_step]
  simp only [known, after_pure, after_step]

theorem outcome_probeCached_miss (unknown : s.displayProbeCache.lookup attr = none) :
    (probeQueueLocalDisplayableCached net client attr).outcome s =
      (probeQueueLocalAttributeDisplayable net client defaultQueueLocalDisplayProbeObject attr).outcome s.wire := by
  rw [probeQueueLocalDisplayableCached, outcome_bind, outcome_step]
  simp only [unknown, after_step, outcome_bind, ProbeWire.onWire, outcome_focus]
  cases (probeQueueLocalAttributeDisplayable net client defaultQueueLocalDisplayProbeObject attr).outcome s.wire <;> rfl

end Cache

theorem resolveCandidates_notFound_iff {candidates : List String} (given : ∀ attr ∈ candidates, trimSpace attr ≠ "")
    (base : List String) (s : ProbeWire σ) :
    (∃ e, (resolveCandidates net client candidates base).outcome s = .error e ∧ e.isNotFound = true) ↔
      ∃ probe ∈ probesFrom net client candidates s, ProbeObjectMissing net client probe.1 probe.2 := by
  induction candidates generalizing base s with
  | nil => exact iff_of_false (fun ⟨_, stopped, _⟩ => nomatch stopped) (fun ⟨_, member, _⟩ => nomatch member)
  | cons attr rest ih =>
    have later := ih fun other member => given other (List.mem_cons_of_mem _ member)
    rw [resolveCandidates, outcome_bind, outcome_mapError, after_mapError, probesFrom]
    cases known : s.displayProbeCache.lookup attr with
    | some displayable =>
      rw [outcome_probeCached_hit known, after_probeCached_hit known]
      exact later _ s
    | none =>
      have first : (∃ e, (probeQueueLocalDisplayableCached net client attr).outcome s = .error e ∧ e.isNotFound = true) ↔
          ProbeObjectMissing net client attr s.wire := by
        rw [outcome_probeCached_miss known]
        exact probe_notFound_iff (given attr List.mem_cons_self)
      simp only [List.exists_mem_cons_iff, ← first]
      cases probed : (probeQueueLocalDisplayableCached net client attr).outcome s with
      | ok displayable =>
        have passed : ¬ ∃ e, (Except.ok displayable : Except MqError Bool) = .error e ∧ e.isNotFound = true :=
          fun ⟨_, stopped, _⟩ => nomatch stopped
        rw [or_iff_right passed]
        exact later _ _
      | error e =>
        have last : ¬ ∃ probe ∈ ([] : List (String × Wire σ)), ProbeObjectMissing net client probe.1 probe.2 :=
          fun ⟨_, member, _⟩ => nomatch member
        rw [or_iff_left last]
        constructor
        · rintro ⟨_, stopped, absent⟩
          cases stopped
          exact ⟨e, rfl, (isNotFound_wrapped _ e).symm.trans absent⟩
        · rintro ⟨_, stopped, absent⟩
          cases stopped
          exact ⟨_, rfl, (isNotFound_wrapped _ e).trans absent⟩

theorem queueDisplayParametersForGet_of_local {type : QueueType} (isLocal : normalizeQueueType type = .localQueue) :
    Client.queueDisplayParametersForGet net client type = Client.queueLocalDisplayParametersResolved net client := by
  rw [Client.queueDisplayParametersForGet, if_neg (not_not_intro isLocal)]

theorem outcome_getQueue {spec : MqAdmin.QueueSpec} (isLocal : normalizeQueueType spec.type = .localQueue)
    (s : ProbeWire σ) :
    (getQueue net client spec).outcome s =
      match (Client.queueDisplayParametersForGet net client spec.type).outcome s with
      | .error e => .error e
      | .ok params =>
        match (postMQSC net client (queueDisplayRequest spec params)).outcome
          ((Client.queueDisplayParametersForGet net client spec.type).after s).wire with
        | .error failure => .error failure.error
        | .ok resp => match resp.firstObjectAttributes with
          | .error e => .error (if e.isNotFound then .notFound spec.name else e)
          | .ok attrs => .ok ⟨spec.name, normalizeQueueAttributes attrs spec.type⟩ := by
  have valid : validateQueueType spec.type = .ok () := by
    rw [validateQueueType, isLocal]
  rw [getQueue, valid, outcome_bind, outcome_ofExcept, after_ofExcept]
  simp only
  rw [outcome_bind]
  cases (Client.queueDisplayParametersForGet net client spec.type).outcome s with
  | error e => rfl
  | ok params =>
    simp only [outcome_bind, ProbeWire.onWire, outcome_focus, outcome_mapError, outcome_ofExcept, outcome_pure]
    cases (postMQSC net client (queueDisplayRequest spec params)).outcome
      ((Client.queueDisplayParametersForGet net client spec.type).after s).wire with
    | error failure => rfl
    | ok resp =>
      simp only [Except.mapError]
      cases resp.firstObjectAttributes <;> rfl

/-- A not-found of GetQueue is about the queue exactly when no probe before its DISPLAY is told that the probe object is
missing. -/
theorem getQueue_notFound_iff {spec : MqAdmin.QueueSpec} (isLocal : normalizeQueueType spec.type = .localQueue)
    (s : ProbeWire σ) :
    (∀ e, (getQueue net client spec).outcome s = .error e → e.isNotFound = true → QueueAbsent net client spec s) ↔
      ∀ probe ∈ probesFrom net client queueLocalDefineOnlyCandidates s, ¬ ProbeObjectMissing net client probe.1 probe.2 := by
  have nonblank : ∀ attr ∈ queueLocalDefineOnlyCandidates, trimSpace attr ≠ "" := by decide
  have resolved : (∃ e, (Client.queueDisplayParametersForGet net client spec.type).outcome s = .error e ∧
      e.isNotFound = true) ↔ ∃ probe ∈ probesFrom net client queueLocalDefineOnlyCandidates s,
        ProbeObjectMissing net client probe.1 probe.2 := by
    rw [queueDisplayParametersForGet_of_local isLocal]
    exact resolveCandidates_notFound_iff nonblank queueLocalDisplayParameters s
  rw [outcome_getQueue isLocal]
  constructor
  · intro about probe member missing
    obtain ⟨e, stopped, absent⟩ := resolved.mpr ⟨probe, member, missing⟩
    rw [stopped] at about
    obtain ⟨params, done, -⟩ := about e rfl absent
    rw [stopped] at done
    cases done
  · intro found e stopped absent
    cases shown : (Client.queueDisplayParametersForGet net client spec.type).outcome s with
    | error e' =>
      rw [shown] at stopped
      cases stopped
      obtain ⟨probe, member, missing⟩ := resolved.mp ⟨e, shown, absent⟩
      exact absurd missing (found probe member)
    | ok params =>
      rw [shown] at stopped
      refine ⟨params, shown, ?_⟩
      cases posted : (postMQSC net client (queueDisplayRequest spec params)).outcome
          ((Client.queueDisplayParametersForGet net client spec.type).after s).wire with
      | error failure =>
        simp only [posted] at stopped
        cases stopped
        obtain ⟨resp, missing⟩ := postMQSC_notFound_iff.mp ⟨failure, posted, absent⟩
        exact ⟨resp, .inl missing⟩
      | ok resp =>
        obtain ⟨answered, success⟩ := postMQSC_ok posted
        by_cases empty : resp.commandResponse = []
        · exact ⟨resp, .inr ⟨answered, success, empty⟩⟩
        · obtain ⟨attrs, read⟩ := MqscResponse.firstObjectAttributes_of_success success empty
          simp only [posted, read] at stopped
          cases stopped

end Presence

section Cases

attribute [local instance] asciiTables

def missingObject : MqscResponse := failedCommand "AMQ8147E: IBM MQ object not found."

def shownObject : MqscResponse where
  commandResponse := [⟨0, [], [], ∅⟩]
  overallCompletionCode := 0
  error := []

def withoutProbeObject : Network Unit :=
  { answering missingObject with
    send := fun request _ s => (.answered ⟨200, .ok request.objectName⟩, s)
    unmarshal := fun raw => .ok (if raw = defaultQueueLocalDisplayProbeObject then missingObject else shownObject) }

/-- The queue is there, and GetQueue reports it as missing. -/
theorem getQueue_denies_queue :
    (∀ params, ∃ resp, Answered withoutProbeObject basicClient (queueDisplayRequest ⟨"ORDERS", .localQueue, ∅⟩ params)
      freshWire resp ∧ resp.overallFailed = false ∧ resp.commandResponse ≠ []) ∧
    ¬ ∀ e, (getQueue withoutProbeObject basicClient ⟨"ORDERS", .localQueue, ∅⟩).outcome ⟨freshWire, ∅⟩ = .error e →
      e.isNotFound = true → QueueAbsent withoutProbeObject basicClient ⟨"ORDERS", .localQueue, ∅⟩ ⟨freshWire, ∅⟩ := by
  constructor
  · intro params
    exact ⟨shownObject, ⟨⟨200, .ok "ORDERS"⟩, "ORDERS", rfl, rfl, by decide, rfl⟩, rfl, List.cons_ne_nil _ _⟩
  · intro about
    obtain ⟨params, done, -⟩ := about _ rfl rfl
    cases done

def onlyProbeObject : Network Unit :=
  { withoutProbeObject with
    unmarshal := fun raw => .ok (if raw = defaultQueueLocalDisplayProbeObject then shownObject else missingObject) }

theorem probes_onlyProbeObject :
    probesFrom onlyProbeObject basicClient queueLocalDefineOnlyCandidates ⟨freshWire, ∅⟩ =
      queueLocalDefineOnlyCandidates.map fun attr => (attr, freshWire) := rfl

theorem getQueue_reports_queue :
    (getQueue onlyProbeObject basicClient ⟨"ORDERS", .localQueue, ∅⟩).outcome ⟨freshWire, ∅⟩ =
        .error (.notFound "ORDERS") ∧
      QueueAbsent onlyProbeObject basicClient ⟨"ORDERS", .localQueue, ∅⟩ ⟨freshWire, ∅⟩ := by
  have stopped : (getQueue onlyProbeObject basicClient ⟨"ORDERS", .localQueue, ∅⟩).outcome ⟨freshWire, ∅⟩ =
      .error (.notFound "ORDERS") := rfl
  refine ⟨stopped, (getQueue_notFound_iff rfl _).mpr ?_ _ stopped rfl⟩
  rw [probes_onlyProbeObject, List.forall_mem_map]
  rintro attr - ⟨resp, ⟨⟨res, raw, arrived, body, -, decoded⟩, failed, -⟩, -⟩
  obtain rfl : (⟨200, .ok defaultQueueLocalDisplayProbeObject⟩ : HttpResponse) = res := Except.ok.inj arrived
  obtain rfl : defaultQueueLocalDisplayProbeObject = raw := Except.ok.inj body
  obtain rfl : shownObject = resp := Except.ok.inj decoded
  cases failed

end Cases

end MKurator.MqRest
