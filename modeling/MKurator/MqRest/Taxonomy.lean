import MKurator.MqRest.Client
import MKurator.MqRest.Exchanges

/-! The classes of errors that `postMQSC` and `Ping` return, against what the request met last. -/

namespace MKurator.MqRest
open MKurator.MqAdmin MKurator.Lib MKurator.Lib.Fallible MKurator.Lib.Strings

section Ping

variable {σ : Type} (net : Network σ) (get : List String → σ → SendResult × σ) (client : Client)

/-- The network for a GET of the queue manager's resource, whose request has no body. -/
def Network.pinging : Network σ := { net with send := fun _ => get }

def pingStatusMessage (status : Nat) : String := "mqweb ping returned HTTP " ++ toString status

/-- The part of `Ping` after the round trip, which does not read the body. -/
def readPingResponse (res : HttpResponse) : Except MqError Unit :=
  if res.status = 401 ∨ res.status = 403 then
    .error (.terminal .unauthorized (client.unauthorizedMessage (pingStatusMessage res.status)))
  else if 500 ≤ res.status then .error (.transient (pingStatusMessage res.status))
  else if 400 ≤ res.status then .error (.terminal .unreachable (pingStatusMessage res.status))
  else .ok ()

def pingRequest : MqscRequest := .runCommand ""

def ping : Fallible (Wire σ) MqError Unit := do
  let res ← roundTripWithReauth (net.pinging get) client pingRequest
  Fallible.ofExcept (readPingResponse client res)

end Ping

/-- What a request that returns an error met last. `other` are the answers that a retry would not change. -/
inductive FinalCause where
  | contextExpiry
  | networkError
  | breakerOpen
  | tooManyRequests
  | serverError
  | other
  deriving DecidableEq, Repr

namespace FinalCause

def ofStatus (status : Nat) (rest : FinalCause) : FinalCause :=
  if status = 429 then .tooManyRequests else if 500 ≤ status then .serverError else rest

def ofSend (client : Client) (readsBody : Bool) : SendResult → FinalCause
  | .unbuildable _ => .other
  | .aborted _ => .contextExpiry
  | .failed cause => if client.clientCertMode && isClientCertRejection cause then .other else .networkError
  | .answered res => ofStatus res.status (if readsBody && res.body.toOption.isNone then .networkError else .other)

/-- After a login that gave cookies only the breaker can have stopped the request. -/
def ofLogin : LoginResult → FinalCause
  | .unbuildable .. => .other
  | .aborted _ => .contextExpiry
  | .failed _ => .networkError
  | .answered status cookies =>
    ofStatus status (if (status = 200 ∨ status = 204) ∧ cookies ≠ [] then .breakerOpen else .other)

/-- `readsBody` says whether the body of the last answer was read. -/
def ofLog (client : Client) (readsBody : Bool) (log : List Exchange) : FinalCause :=
  match log.getLast? with
  | none => .breakerOpen
  | some (.pause (some _)) => .contextExpiry
  | some (.pause none) => .other
  | some (.sent result) => ofSend client readsBody result
  | some (.login result) => ofLogin result

end FinalCause

/-- The two cases in which a cause that calls for a retry is taken for a final answer: a login that is throttled, and the
body of a 401 that the LTPA client could not read. -/
def Misjudged (client : Client) (log : List Exchange) : Prop :=
  match log.getLast? with
  | some (.login (.answered status _)) => status = 429
  | some (.sent (.answered last)) => PeekFails client log.dropLast last
  | _ => False

def peeksInto (client : Client) (log : List Exchange) : Bool :=
  match log.getLast? with
  | some (.sent (.answered last)) =>
    client.ltpa.isSome && last.status == 401 && log.dropLast.all fun earlier => !earlier.unauthorized
  | _ => false

def Exchange.built : Exchange → Bool
  | .sent (.unbuildable _) => false
  | .login (.unbuildable ..) => false
  | _ => true

def Classified (e : MqError) : Prop := e.isTransient = true ∨ e.isTerminal = true ∨ e.isNotFound = true

def CallsForRetry (e : MqError) : Prop := e.isTransient = true ∧ e.isTerminal = false

/-- The error has a class, and after a cause that may pass it is the one to retry, except in the two cases. -/
structure Judged (client : Client) (readsBody : Bool) (log : List Exchange) (e : MqError) : Prop where
  classified : Classified e
  exactly : FinalCause.ofLog client readsBody log ≠ .other → (CallsForRetry e ↔ ¬ Misjudged client log)

namespace Judged

variable {client : Client} {readsBody : Bool} {log : List Exchange} {e : MqError}

theorem of_transient (transient : e.isTransient = true) (terminal : e.isTerminal = false)
    (judged : ¬ Misjudged client log) : Judged client readsBody log e :=
  ⟨.inl transient, fun _ => iff_of_true ⟨transient, terminal⟩ judged⟩

theorem of_final (classified : Classified e) (final : FinalCause.ofLog client readsBody log = .other) :
    Judged client readsBody log e :=
  ⟨classified, fun passing => absurd final passing⟩

theorem of_misjudged (terminal : e.isTerminal = true) (misjudged : Misjudged client log) :
    Judged client readsBody log e := by
  refine ⟨.inr (.inl terminal), fun _ => iff_of_false (fun retried => ?_) (not_not.mpr misjudged)⟩
  rw [retried.2] at terminal
  cases terminal

end Judged

section Causes

variable {client : Client} {readsBody : Bool} {before : List Exchange} {e : MqError}

theorem ofStatus_rest {status : Nat} {rest : FinalCause} (unthrottled : status ≠ 429) (available : ¬ 500 ≤ status) :
    FinalCause.ofStatus status rest = rest := by
  rw [FinalCause.ofStatus, if_neg unthrottled, if_neg available]

theorem answered_of_loginCookies {result : LoginResult} {gained : List String} (done : loginCookies result = .ok gained) :
    ∃ status cookies, result = .answered status cookies ∧ (status = 200 ∨ status = 204) := by
  cases result with
  | unbuildable context cause => cases done
  | aborted cause => cases done
  | failed cause => cases done
  | answered status cookies =>
    refine ⟨status, cookies, rfl, ?_⟩
    by_contra unaccepted
    rw [loginCookies, if_neg unaccepted] at done
    split at done
    · cases done
    · split at done
      · cases done
      · cases done

theorem ofLog_login (result : LoginResult) :
    FinalCause.ofLog client readsBody (before ++ [.login result]) = FinalCause.ofLogin result := by
  rw [FinalCause.ofLog, List.getLast?_concat]

theorem ofLog_sent (result : SendResult) :
    FinalCause.ofLog client readsBody (before ++ [.sent result]) = FinalCause.ofSend client readsBody result := by
  rw [FinalCause.ofLog, List.getLast?_concat]

theorem misjudged_login (status : Nat) (cookies : List String) :
    Misjudged client (before ++ [.login (.answered status cookies)]) ↔ status = 429 := by
  rw [Misjudged, List.getLast?_concat]

theorem misjudged_answered (last : HttpResponse) :
    Misjudged client (before ++ [.sent (.answered last)]) ↔ PeekFails client before last := by
  rw [Misjudged, List.getLast?_concat, List.dropLast_concat]

theorem judged_login {result : LoginResult} (built : (Exchange.login result).built = true)
    (stopped : loginCookies result = .error e) : Judged client readsBody (before ++ [.login result]) e := by
  cases result with
  | unbuildable context cause => cases built
  | aborted cause =>
    cases stopped
    exact .of_transient rfl rfl (by simp [Misjudged])
  | failed cause =>
    cases stopped
    exact .of_transient rfl rfl (by simp [Misjudged])
  | answered status cookies =>
    rw [loginCookies] at stopped
    split at stopped
    next accepted =>
      split at stopped
      next without =>
        cases stopped
        refine .of_final (.inr (.inl rfl)) ?_
        rw [ofLog_login, FinalCause.ofLogin, ofStatus_rest (by omega) (by omega)]
        exact if_neg fun given => given.2 without
      next => cases stopped
    next unaccepted =>
      have remaining : (if (status = 200 ∨ status = 204) ∧ cookies ≠ [] then FinalCause.breakerOpen else .other) = .other :=
        if_neg fun accepted => unaccepted accepted.1
      split at stopped
      next rejected =>
        cases stopped
        refine .of_final (.inr (.inl rfl)) ?_
        rw [ofLog_login, FinalCause.ofLogin, ofStatus_rest (by omega) (by omega), remaining]
      next =>
        split at stopped
        next unavailable =>
          cases stopped
          refine .of_transient rfl rfl fun misjudged => ?_
          have throttled : status = 429 := (misjudged_login status cookies).mp misjudged
          omega
        next available =>
          cases stopped
          by_cases throttled : status = 429
          · exact .of_misjudged rfl ((misjudged_login status cookies).mpr throttled)
          · refine .of_final (.inr (.inl rfl)) ?_
            rw [ofLog_login, FinalCause.ofLogin, ofStatus_rest throttled available, remaining]

theorem judged_explained {log : List Exchange} (built : ∀ exchange ∈ log, exchange.built = true)
    (explained : Explains client log e) : Judged client readsBody log e := by
  cases explained with
  | refused idle =>
    refine .of_transient rfl rfl fun misjudged => ?_
    rcases idle with rfl | ⟨before, result, gained, rfl, done⟩
    · exact misjudged
    · obtain ⟨status, cookies, rfl, accepted⟩ := answered_of_loginCookies done
      have throttled : status = 429 := (misjudged_login status cookies).mp misjudged
      omega
  | paused before cause => exact .of_transient rfl rfl (by simp [Misjudged])
  | unbuildable before cause =>
    have unbuilt := built (.sent (.unbuildable cause)) (List.mem_append_right _ (List.mem_singleton.mpr rfl))
    cases unbuilt
  | aborted before cause => exact .of_transient rfl rfl (by simp [Misjudged])
  | rejected before rejection =>
    refine .of_final (.inr (.inl rfl)) ?_
    rw [ofLog_sent, FinalCause.ofSend, if_pos rejection]
  | failed before ordinary => exact .of_transient rfl rfl (by simp [Misjudged])
  | exhausted before retryable =>
    refine .of_transient rfl rfl fun misjudged => ?_
    obtain ⟨-, unauthorized, -⟩ := (misjudged_answered _).mp misjudged
    rw [unauthorized] at retryable
    exact absurd retryable (by decide)
  | login before stopped =>
    exact judged_login (built _ (List.mem_append_right _ (List.mem_singleton.mpr rfl))) stopped

theorem ofSend_final {last : HttpResponse} (final : isRetryableHTTPStatus last.status = false) :
    FinalCause.ofSend client readsBody (.answered last) =
      if readsBody && last.body.toOption.isNone then .networkError else .other := by
  obtain ⟨unthrottled, available⟩ : last.status ≠ 429 ∧ ¬ 500 ≤ last.status := by
    simpa [isRetryableHTTPStatus] using final
  exact ofStatus_rest unthrottled available

theorem toOption_isNone_iff {body : Except String String} :
    body.toOption.isNone = true ↔ ∃ cause, body = .error cause := by
  cases body with
  | error cause => exact iff_of_true rfl ⟨cause, rfl⟩
  | ok raw => exact iff_of_false nofun nofun

theorem peeksInto_iff {last : HttpResponse} :
    (peeksInto client (before ++ [.sent (.answered last)]) && last.body.toOption.isNone) = true ↔
      PeekFails client before last := by
  rw [peeksInto, List.getLast?_concat, List.dropLast_concat]
  simp only [Bool.and_eq_true, beq_iff_eq, List.all_eq_true, Bool.not_eq_true', toOption_isNone_iff, PeekFails, Unchallenged,
    and_assoc]

theorem classified_ping {res : HttpResponse} (stopped : readPingResponse client res = .error e) : Classified e := by
  rw [readPingResponse] at stopped
  split at stopped
  · cases stopped
    exact .inr (.inl rfl)
  · split at stopped
    · cases stopped
      exact .inl rfl
    · split at stopped
      · cases stopped
        exact .inr (.inl rfl)
      · cases stopped

theorem judged_ping {log : List Exchange} {res : HttpResponse} (delivered : Delivered client log res)
    (stopped : readPingResponse client res = .error e) : Judged client (peeksInto client log) log e := by
  cases delivered with
  | whole final unpeeked =>
    refine .of_final (classified_ping stopped) ?_
    rw [ofLog_sent, ofSend_final final]
    exact if_neg (mt peeksInto_iff.mp unpeeked)
  | emptied peeked =>
    rw [readPingResponse, if_pos (.inl peeked.2.1)] at stopped
    cases stopped
    exact .of_misjudged rfl ((misjudged_answered _).mpr peeked)

variable [UnicodeTables] {σ : Type} {net : Network σ} {request : MqscRequest}

theorem classified_post {res : HttpResponse} {failure : PostFailure}
    (stopped : readMQSCResponse net client request res = .error failure) : Classified failure.error := by
  rw [readMQSCResponse] at stopped
  cases body : res.body with
  | error cause =>
    rw [body] at stopped
    cases stopped
    exact .inl rfl
  | ok raw =>
    simp only [body] at stopped
    split at stopped
    · cases stopped
      exact .inr (.inl rfl)
    · split at stopped
      · cases stopped
        exact .inl rfl
      · split at stopped
        · cases stopped
          exact .inr (.inl rfl)
        · cases parsed : net.unmarshal raw with
          | error cause =>
            rw [parsed] at stopped
            cases stopped
            exact .inr (.inl rfl)
          | ok response =>
            rw [parsed] at stopped
            simp only at stopped
            split at stopped
            · split at stopped
              · cases stopped
                exact .inr (.inr rfl)
              · cases stopped
                exact .inr (.inl rfl)
            · cases stopped

theorem judged_post {log : List Exchange} {res : HttpResponse} {failure : PostFailure} (delivered : Delivered client log res)
    (stopped : readMQSCResponse net client request res = .error failure) : Judged client true log failure.error := by
  cases delivered with
  | whole final unpeeked =>
    cases body : res.body with
    | error cause =>
      rw [readMQSCResponse, body] at stopped
      cases stopped
      exact .of_transient rfl rfl (mt (misjudged_answered _).mp unpeeked)
    | ok raw =>
      refine .of_final (classified_post stopped) ?_
      rw [ofLog_sent, ofSend_final final, body]
      rfl
  | emptied peeked =>
    rw [readMQSCResponse] at stopped
    simp only [peeked.2.1] at stopped
    cases stopped
    exact .of_misjudged rfl ((misjudged_answered _).mpr peeked)

end Causes

section Port

variable [UnicodeTables] {σ : Type} (net : Network σ) (client : Client) (w : Wire σ)

/-- Every error of a post or a ping has a class; after a context expiry, a network error, an open breaker, HTTP 429 or
HTTP 5xx it is transient and not terminal, exactly if the request is not one of the two misjudged ones. -/
theorem port_errors_judged :
    (∀ (request : MqscRequest) (failure : PostFailure),
      (∀ exchange ∈ met net client request w, exchange.built = true) →
      (postMQSC net client request).outcome w = .error failure →
        Judged client true (met net client request w) failure.error) ∧
    ∀ (get : List String → σ → SendResult × σ) (e : MqError),
      (∀ exchange ∈ met (net.pinging get) client pingRequest w, exchange.built = true) →
      (ping net get client).outcome w = .error e →
        Judged client (peeksInto client (met (net.pinging get) client pingRequest w))
          (met (net.pinging get) client pingRequest w) e := by
  refine ⟨fun request failure built stopped => ?_, fun get e built stopped => ?_⟩
  · obtain ⟨delivered, explained⟩ := roundTripWithReauth_triple net client request w.recording rfl
    rw [outcome_postMQSC, outcome_recorded] at stopped
    cases trip : (roundTripWithReauth net.recorded client request).outcome w.recording with
    | error e =>
      rw [trip] at stopped
      cases stopped
      exact judged_explained built (explained e trip)
    | ok res =>
      rw [trip] at stopped
      exact judged_post (delivered res trip) stopped
  · obtain ⟨delivered, explained⟩ := roundTripWithReauth_triple (net.pinging get) client pingRequest w.recording rfl
    rw [ping, outcome_bind, outcome_recorded] at stopped
    cases trip : (roundTripWithReauth (net.pinging get).recorded client pingRequest).outcome w.recording with
    | error e =>
      rw [trip] at stopped
      cases stopped
      exact judged_explained built (explained e trip)
    | ok res =>
      rw [trip] at stopped
      exact judged_ping (delivered res trip) stopped

end Port

section Concrete

attribute [local instance] asciiTables

def steadyNetwork (login : LoginResult) (send : SendResult) : Network Unit where
  now _ := 0
  sleepWithContext _ s := (none, s)
  send _ _ s := (send, s)
  login _ s := (login, s)
  unmarshal _ := .error "unexpected end of JSON input"
  errorMsgIDs _ := []

def loginClient : Client := { basicClient with ltpa := some ⟨"admin", "secret"⟩ }

def coldWire : Wire Unit := ⟨newCircuitBreaker 0 0, ⟨[], 0⟩, ()⟩

def throttledLogin : Network Unit := steadyNetwork (.answered 429 []) (.failed "connection refused")

def interruptedRefusal : Network Unit :=
  steadyNetwork (.answered 204 ["LtpaToken2=one"]) (.answered ⟨401, .error "context deadline exceeded"⟩)

/-- A login that is answered HTTP 429, and a context that ends while the client reads why it was refused, end the request
with terminal errors. -/
theorem misjudged_terminal :
    (met throttledLogin loginClient (.runCommand "PING QMGR") coldWire = [.login (.answered 429 [])] ∧
      ((postMQSC throttledLogin loginClient (.runCommand "PING QMGR")).mapError PostFailure.error).outcome coldWire =
        .error (.terminal .unauthorized "ltpa login returned unexpected HTTP 429")) ∧
    met interruptedRefusal loginClient (.runCommand "PING QMGR") coldWire =
        [.login (.answered 204 ["LtpaToken2=one"]), .sent (.answered ⟨401, .error "context deadline exceeded"⟩)] ∧
      ((postMQSC interruptedRefusal loginClient (.runCommand "PING QMGR")).mapError PostFailure.error).outcome coldWire =
        .error (.terminal .unauthorized "mqweb returned HTTP 401") :=
  ⟨⟨rfl, rfl⟩, rfl, rfl⟩

def refusingNetwork : Network Unit := steadyNetwork (.failed "connection refused") (.failed "connection refused")

theorem port_errors_judged_refused :
    CallsForRetry (.transientCaused "mqweb request failed" (.plain "connection refused")) :=
  (((port_errors_judged refusingNetwork basicClient coldWire).1 (.runCommand "PING QMGR") ⟨_, none⟩ (by decide) rfl).exactly
    (by decide)).mpr id

end Concrete

end MKurator.MqRest
