import MKurator.Lib.Fallible
import MKurator.MqRest.Response

/-! One request on its way to mqweb: the circuit breaker that admits it, the attempts, and the LTPA session. -/

namespace MKurator.MqRest
open MKurator.Api MKurator.MqAdmin MKurator.Lib MKurator.Lib.Strings

inductive MqscRequest where
  | runCommand (command : String)
  | runCommandJSON (command qualifier name : String) (responseParameters : List String) (parameters : ParamMap)

/-- A body that cannot be read carries the reason. -/
structure HttpResponse where
  status : Nat
  body : Except String String

inductive BreakerState where
  | closed
  | opened
  | halfOpen
  deriving DecidableEq, Repr

structure CircuitBreakerConfig where
  failureThreshold : Nat
  openTimeout : Int
  failureThreshold_pos : 0 < failureThreshold
  openTimeout_pos : 0 < openTimeout

/-- Times are in nanoseconds. -/
structure CircuitBreaker where
  cfg : CircuitBreakerConfig
  state : BreakerState
  consecutiveFails : Nat
  openedAt : Int
  probeInFlight : Bool

def defaultFailureThreshold : Nat := 5
def defaultOpenTimeout : Int := 30 * 10 ^ 9

/-- Bounds that are not positive become the defaults. -/
def newCircuitBreaker (failureThreshold openTimeout : Int) : CircuitBreaker where
  cfg :=
    { failureThreshold := if 0 < failureThreshold then failureThreshold.toNat else defaultFailureThreshold
      openTimeout := if 0 < openTimeout then openTimeout else defaultOpenTimeout
      failureThreshold_pos := by split <;> [omega; decide]
      openTimeout_pos := by split <;> [assumption; decide] }
  state := .closed
  consecutiveFails := 0
  openedAt := 0
  probeInFlight := false

def circuitOpenError : MqError := .transient "mqweb circuit breaker open"

namespace CircuitBreaker

/-- The error of a refused request, and the breaker after the decision. -/
def beforeRequest (b : CircuitBreaker) (now : Int) : Option MqError × CircuitBreaker :=
  match b.state with
  | .closed => (none, b)
  | .opened =>
    if now - b.openedAt < b.cfg.openTimeout then (some circuitOpenError, b)
    else (none, { b with state := .halfOpen, probeInFlight := true })
  | .halfOpen =>
    if b.probeInFlight then (some circuitOpenError, b) else (none, { b with probeInFlight := true })

def recordSuccess (b : CircuitBreaker) : CircuitBreaker :=
  { b with consecutiveFails := 0, probeInFlight := false, state := .closed }

def recordFailure (b : CircuitBreaker) (now : Int) : CircuitBreaker :=
  if b.state = .halfOpen then { b with probeInFlight := false, state := .opened, openedAt := now }
  else if b.cfg.failureThreshold ≤ b.consecutiveFails + 1 then
    { b with probeInFlight := false, consecutiveFails := b.consecutiveFails + 1, state := .opened, openedAt := now }
  else { b with probeInFlight := false, consecutiveFails := b.consecutiveFails + 1 }

end CircuitBreaker

structure RetryPolicy where
  maxAttempts : Nat
  initialBackoff : Int64
  maxBackoff : Int64
  maxAttempts_pos : 0 < maxAttempts

namespace RetryPolicy

/-- The loop of `backoff`, which doubles in 64-bit arithmetic. -/
def backoffFrom (maxBackoff : Int64) : Nat → Int64 → Int64
  | 0, d => d
  | n + 1, d => if maxBackoff ≤ d * 2 then maxBackoff else backoffFrom maxBackoff n (d * 2)

def backoff (p : RetryPolicy) (attempt : Nat) : Int64 := backoffFrom p.maxBackoff (attempt - 1) p.initialBackoff

end RetryPolicy

structure LTPAConfig where
  username : String
  password : String

/-- The cached cookies; `gen` counts the logins that stored them. -/
structure LTPASession where
  cookies : List String
  gen : Nat

/-- What `httpClient.Do` makes of one attempt; `aborted` is an error after the context ended. -/
inductive SendResult where
  | unbuildable (cause : String)
  | aborted (cause : String)
  | failed (cause : String)
  | answered (response : HttpResponse)

inductive LoginResult where
  | unbuildable (context cause : String)
  | aborted (cause : String)
  | failed (cause : String)
  | answered (status : Nat) (cookies : List String)

/-- Everything outside the client. Each use of it may move its state on. -/
structure Network (σ : Type) where
  now : σ → Int
  /-- A cause means that the context ended before the pause did. -/
  sleepWithContext : Int64 → σ → Option String × σ
  send : MqscRequest → List String → σ → SendResult × σ
  login : LTPAConfig → σ → LoginResult × σ
  /-- `json.Unmarshal` into a response. -/
  unmarshal : String → Except String MqscResponse
  /-- The `msgId` values of a body that decodes as an mqweb error. -/
  errorMsgIDs : String → List String

structure Client where
  retry : RetryPolicy
  ltpa : Option LTPAConfig
  clientCertMode : Bool

/-- A client's own state beside the state of what is outside it. -/
structure Wire (σ : Type) where
  breaker : CircuitBreaker
  session : LTPASession
  net : σ

def isRetryableHTTPStatus (code : Nat) : Bool := code == 429 || decide (500 ≤ code)

def dnMappingPrereq : String :=
  "mqweb rejected the client certificate: verify the certificate is " ++
  "trusted by mqweb and that its DN is mapped to an mqweb user in the queue manager's user " ++
  "registry — this DN-to-user registry mapping is a deployment prerequisite MKurator does not configure"

def isClientCertRejection (cause : String) : Bool := contains cause "remote error: tls"

def clientCertRejectionError : MqError := .terminal .unauthorized dnMappingPrereq

def httpStatusMessage (status : Nat) : String := "mqweb returned HTTP " ++ toString status

def ltpaClassifierReauth : String := "MQWB0112E"

/-- `doLogin`, from what its request met. -/
def loginCookies : LoginResult → Except MqError (List String)
  | .unbuildable context cause => .error (.wrapped context (.plain cause))
  | .aborted cause => .error (.transientCaused "ltpa login aborted" (.plain cause))
  | .failed cause => .error (.transientCaused "ltpa login request failed" (.plain cause))
  | .answered status cookies =>
    if status = 200 ∨ status = 204 then
      if cookies = [] then .error (.terminal .unauthorized "ltpa login succeeded but returned no session cookie")
      else .ok cookies
    else if status = 401 ∨ status = 403 then
      .error (.terminal .unauthorized ("ltpa login rejected credentials (HTTP " ++ toString status ++ ")"))
    else if 500 ≤ status then .error (.transient ("ltpa login returned HTTP " ++ toString status))
    else .error (.terminal .unauthorized ("ltpa login returned unexpected HTTP " ++ toString status))

section Requests

variable {σ : Type} (net : Network σ) (client : Client)

def Wire.use {α : Type} (act : σ → α × σ) : Fallible (Wire σ) MqError α :=
  Fallible.step fun w => ((act w.net).1, { w with net := (act w.net).2 })

def Wire.beforeRequest : Fallible (Wire σ) MqError Unit := do
  let refused ← Fallible.step fun w =>
    ((w.breaker.beforeRequest (net.now w.net)).1,
      { w with breaker := (w.breaker.beforeRequest (net.now w.net)).2 })
  match refused with
  | some e => throw e
  | none => pure ()

def Wire.recordSuccess : Fallible (Wire σ) MqError Unit :=
  Fallible.step fun w => ((), { w with breaker := w.breaker.recordSuccess })

def Wire.recordFailure : Fallible (Wire σ) MqError Unit :=
  Fallible.step fun w => ((), { w with breaker := w.breaker.recordFailure (net.now w.net) })

def sleepWithContext (d : Int64) : Fallible (Wire σ) MqError Unit := do
  match ← Wire.use (net.sleepWithContext d) with
  | some cause => throw (.transientCaused "mqweb retry backoff aborted" (.plain cause))
  | none => pure ()

/-- The part of the attempt loop after `httpClient.Do`; `again` goes on with the next attempt. -/
def settleAttempt (remaining : Nat) (lastNetErr : Option String)
    (again : Option String → Fallible (Wire σ) MqError HttpResponse) :
    SendResult → Fallible (Wire σ) MqError HttpResponse
  | .unbuildable cause => throw (.wrapped "build mqweb request" (.plain cause))
  | .aborted cause => throw (.transientCaused "mqweb request aborted" (.plain cause))
  | .failed cause =>
    if client.clientCertMode && isClientCertRejection cause then do
      Wire.recordFailure net
      throw clientCertRejectionError
    else again (some cause)
  | .answered response =>
    if isRetryableHTTPStatus response.status then
      if 0 < remaining then again lastNetErr
      else do
        Wire.recordFailure net
        throw (.transient (httpStatusMessage response.status))
    else do
      Wire.recordSuccess
      return response

/-- The attempt loop of `roundTrip` with so many attempts left. -/
def roundTripFrom (request : MqscRequest) : Nat → Option String → Fallible (Wire σ) MqError HttpResponse
  | 0, lastNetErr => do
    Wire.recordFailure net
    match lastNetErr with
    | some cause => throw (.transientCaused "mqweb request failed" (.plain cause))
    | none => throw (.transient "mqweb request failed after retries")
  | remaining + 1, lastNetErr => do
    let attempt := client.retry.maxAttempts - (remaining + 1)
    if 0 < attempt then sleepWithContext net (client.retry.backoff attempt)
    -- Every attempt builds its request anew, so it takes the cookies cached by then.
    let result ← Fallible.step fun w =>
      let (result, later) := net.send request w.session.cookies w.net
      (result, { w with net := later })
    settleAttempt net client remaining lastNetErr (roundTripFrom request remaining) result

def roundTrip (request : MqscRequest) : Fallible (Wire σ) MqError HttpResponse := do
  Wire.beforeRequest net
  roundTripFrom net client request client.retry.maxAttempts none

/-- Logs in again unless another request has done so since `seenToken` was read. -/
def reauthenticate (config : LTPAConfig) (seenToken : Nat) : Fallible (Wire σ) MqError Unit := do
  let gen ← Fallible.step fun w => (w.session.gen, w)
  if gen = seenToken then
    let result ← Wire.use (net.login config)
    let cookies ← Fallible.ofExcept (loginCookies result)
    Fallible.step fun w => ((), { w with session := ⟨cookies, w.session.gen + 1⟩ })

def ensureLoggedIn (config : LTPAConfig) : Fallible (Wire σ) MqError Nat := do
  let session ← Fallible.step fun w => (w.session, w)
  if session.cookies = [] then reauthenticate net config session.gen
  Fallible.step fun w => (w.session.gen, w)

def roundTripWithReauth (request : MqscRequest) : Fallible (Wire σ) MqError HttpResponse :=
  match client.ltpa with
  | none => roundTrip net client request
  | some config => do
    let seenToken ← ensureLoggedIn net config
    let res ← roundTrip net client request
    if res.status ≠ 401 then return res
    match res.body with
    | .error _ => return { res with body := .ok "" }
    | .ok body =>
      if ltpaClassifierReauth ∉ net.errorMsgIDs body then return res
      reauthenticate net config seenToken
      roundTrip net client request

end Requests

inductive OwnFailure : MqError → Prop
  | circuitOpen : OwnFailure circuitOpenError
  | clientCertRejected : OwnFailure clientCertRejectionError
  | noAnswer : OwnFailure (.transient "mqweb request failed after retries")
  | retriesExhausted (status : Nat) : OwnFailure (.transient (httpStatusMessage status))
  | noCookie : OwnFailure (.terminal .unauthorized "ltpa login succeeded but returned no session cookie")
  | loginRejected (status : Nat) :
      OwnFailure (.terminal .unauthorized ("ltpa login rejected credentials (HTTP " ++ toString status ++ ")"))
  | loginUnavailable (status : Nat) : OwnFailure (.transient ("ltpa login returned HTTP " ++ toString status))
  | loginUnexpected (status : Nat) :
      OwnFailure (.terminal .unauthorized ("ltpa login returned unexpected HTTP " ++ toString status))

inductive ForeignCause : MqError → Prop
  | transient (context cause : String) : ForeignCause (.transientCaused context (.plain cause))
  | wrapped (context cause : String) : ForeignCause (.wrapped context (.plain cause))

def TransportFailure (e : MqError) : Prop := OwnFailure e ∨ ForeignCause e

theorem TransportFailure.not_notFound {e : MqError} (failure : TransportFailure e) : e.isNotFound = false := by
  rcases failure with own | foreign
  · cases own <;> rfl
  · cases foreign <;> rfl

section Failures

open Fallible

variable {σ : Type} (net : Network σ) (client : Client)

theorem beforeRequest_error (b : CircuitBreaker) (now : Int) {e : MqError}
    (refused : (b.beforeRequest now).1 = some e) : e = circuitOpenError := by
  unfold CircuitBreaker.beforeRequest at refused
  split at refused
  · cases refused
  · split at refused
    · exact (Option.some.inj refused).symm
    · cases refused
  · split at refused
    · exact (Option.some.inj refused).symm
    · cases refused

theorem loginCookies_error (result : LoginResult) {e : MqError} (stopped : loginCookies result = .error e) :
    TransportFailure e := by
  cases result with
  | unbuildable context cause =>
    cases stopped
    exact .inr (.wrapped ..)
  | aborted cause =>
    cases stopped
    exact .inr (.transient ..)
  | failed cause =>
    cases stopped
    exact .inr (.transient ..)
  | answered status cookies =>
    unfold loginCookies at stopped
    simp only at stopped
    split at stopped
    · split at stopped
      · cases stopped
        exact .inl .noCookie
      · cases stopped
    · split at stopped
      · cases stopped
        exact .inl (.loginRejected status)
      · split at stopped
        · cases stopped
          exact .inl (.loginUnavailable status)
        · cases stopped
          exact .inl (.loginUnexpected status)

theorem wire_beforeRequest_fails : FailsOnly TransportFailure (Wire.beforeRequest net) := by
  intro w e stopped
  unfold Wire.beforeRequest at stopped
  rw [outcome_bind_ok (outcome_step _ w)] at stopped
  cases refused : (w.breaker.beforeRequest (net.now w.net)).1 with
  | none =>
    rw [refused] at stopped
    cases stopped
  | some e' =>
    rw [refused] at stopped
    cases stopped
    rw [beforeRequest_error _ _ refused]
    exact .inl .circuitOpen

theorem sleepWithContext_fails (d : Int64) : FailsOnly TransportFailure (sleepWithContext net d) := by
  refine .bind (.step _) fun cause => ?_
  cases cause with
  | none => exact .pure ()
  | some cause => exact .throw (.inr (.transient ..))

theorem settleAttempt_fails (remaining : Nat) (lastNetErr : Option String)
    (again : Option String → Fallible (Wire σ) MqError HttpResponse)
    (later : ∀ err, FailsOnly TransportFailure (again err)) (result : SendResult) :
    FailsOnly TransportFailure (settleAttempt net client remaining lastNetErr again result) := by
  cases result with
  | unbuildable cause => exact .throw (.inr (.wrapped ..))
  | aborted cause => exact .throw (.inr (.transient ..))
  | failed cause =>
    rw [settleAttempt]
    split
    · exact .bind (.step _) fun _ => .throw (.inl .clientCertRejected)
    · exact later _
  | answered response =>
    rw [settleAttempt]
    split
    · split
      · exact later _
      · exact .bind (.step _) fun _ => .throw (.inl (.retriesExhausted _))
    · exact .bind (.step _) fun _ => .pure response

theorem roundTripFrom_fails (request : MqscRequest) (remaining : Nat) (lastNetErr : Option String) :
    FailsOnly TransportFailure (roundTripFrom net client request remaining lastNetErr) := by
  induction remaining generalizing lastNetErr with
  | zero =>
    refine .bind (.step _) fun _ => ?_
    cases lastNetErr with
    | none => exact .throw (.inl .noAnswer)
    | some cause => exact .throw (.inr (.transient ..))
  | succ remaining ih =>
    have attempt := settleAttempt_fails net client remaining lastNetErr _ ih
    rw [roundTripFrom]
    simp only
    split
    · exact .bind (sleepWithContext_fails net _) fun _ => .bind (.step _) attempt
    · exact .bind (.step _) attempt

theorem roundTrip_fails (request : MqscRequest) : FailsOnly TransportFailure (roundTrip net client request) :=
  .bind (wire_beforeRequest_fails net) fun _ => roundTripFrom_fails net client request _ _

theorem reauthenticate_fails (config : LTPAConfig) (seenToken : Nat) :
    FailsOnly TransportFailure (reauthenticate net config seenToken) := by
  refine .bind (.step _) fun gen => ?_
  split
  · refine .bind (.step _) fun result => .bind ?_ fun cookies => .step _
    exact fun _ _ stopped => loginCookies_error result stopped
  · exact .pure _

theorem ensureLoggedIn_fails (config : LTPAConfig) : FailsOnly TransportFailure (ensureLoggedIn net config) := by
  refine .bind (.step _) fun session => ?_
  split
  · exact .bind (reauthenticate_fails net config _) fun _ => .step _
  · exact .step _

theorem roundTripWithReauth_fails (request : MqscRequest) :
    FailsOnly TransportFailure (roundTripWithReauth net client request) := by
  unfold roundTripWithReauth
  split
  · exact roundTrip_fails net client request
  · refine .bind (ensureLoggedIn_fails net _) fun seenToken => .bind (roundTrip_fails net client request) fun res => ?_
    split
    · exact .pure res
    · split
      · exact .pure _
      · split
        · exact .pure res
        · exact .bind (reauthenticate_fails net _ seenToken) fun _ => roundTrip_fails net client request

end Failures

section Delivery

open Fallible

variable {σ : Type}

/-- Sending the request keeps an invariant of the network, and an answer is good where it arrives. -/
structure Carries (net : Network σ) (request : MqscRequest) (inv : σ → Prop) (good : HttpResponse → σ → Prop) : Prop where
  sleep : ∀ d s, inv s → inv (net.sleepWithContext d s).2
  login : ∀ config s, inv s → inv (net.login config s).2
  send : ∀ cookies s, inv s → inv (net.send request cookies s).2 ∧
    ∀ res, (net.send request cookies s).1 = .answered res → good res (net.send request cookies s).2
  unauthorized : ∀ res s, res.status = 401 → good res s

variable {net : Network σ} (client : Client) {request : MqscRequest} {inv : σ → Prop} {good : HttpResponse → σ → Prop}

abbrev Delivers {α : Type} (inv : σ → Prop) (good : α → σ → Prop) (act : Fallible (Wire σ) MqError α) : Prop :=
  Ensures (fun w => inv w.net) (fun w => inv w.net) (fun value w => good value w.net) act

theorem wire_beforeRequest_delivers : Delivers inv (fun _ s => inv s) (Wire.beforeRequest net) := by
  refine .bind (fun _ w => inv w.net) (.step fun w here => ⟨here, here⟩) fun refused => ?_
  cases refused with
  | none => exact .pure fun w here => here
  | some e => exact .throw fun w here => here.1

theorem settleAttempt_delivers (remaining : Nat) (lastNetErr : Option String)
    (again : Option String → Fallible (Wire σ) MqError HttpResponse) (later : ∀ err, Delivers inv good (again err))
    (result : SendResult) :
    Ensures (fun w => inv w.net ∧ ∀ res, result = .answered res → good res w.net) (fun w => inv w.net)
      (fun res w => good res w.net) (settleAttempt net client remaining lastNetErr again result) := by
  have ended : ∀ e : MqError, Ensures (fun w : Wire σ => inv w.net ∧ ∀ res, result = .answered res → good res w.net)
      (fun w => inv w.net) (fun res w => good res w.net)
      (do Wire.recordFailure net; throw e : Fallible (Wire σ) MqError HttpResponse) := fun e =>
    .bind (fun _ w => inv w.net) (.step fun w here => ⟨here.1, here.1⟩) fun _ => .throw fun w here => here.1
  cases result with
  | unbuildable cause => exact .throw fun w here => here.1
  | aborted cause => exact .throw fun w here => here.1
  | failed cause =>
    rw [settleAttempt]
    split
    · exact ended _
    · exact (later _).weaken fun w here => here.1
  | answered response =>
    rw [settleAttempt]
    split
    · split
      · exact (later _).weaken fun w here => here.1
      · exact ended _
    · refine .bind (fun _ w => good response w.net) (.step fun w here => ⟨here.1, here.2 response rfl⟩) fun _ => ?_
      exact .pure fun w here => here

theorem roundTripFrom_delivers (carries : Carries net request inv good) (remaining : Nat) (lastNetErr : Option String) :
    Delivers inv good (roundTripFrom net client request remaining lastNetErr) := by
  induction remaining generalizing lastNetErr with
  | zero =>
    refine .bind (fun _ w => inv w.net) (.step fun w here => ⟨here, here⟩) fun _ => ?_
    cases lastNetErr with
    | none => exact .throw fun w here => here.1
    | some cause => exact .throw fun w here => here.1
  | succ remaining ih =>
    have attempt : Delivers inv good (do
        let result ← Fallible.step fun w =>
          ((net.send request w.session.cookies w.net).1, { w with net := (net.send request w.session.cookies w.net).2 })
        settleAttempt net client remaining lastNetErr (roundTripFrom net client request remaining) result) :=
      .bind (fun result w => ∀ res, result = .answered res → good res w.net)
        (.step fun w here => carries.send w.session.cookies w.net here)
        fun result => settleAttempt_delivers client remaining lastNetErr _ ih result
    rw [roundTripFrom]
    simp only
    split
    · refine .bind (fun _ w => inv w.net) ?_ fun _ => attempt.weaken fun w here => here.1
      refine .bind (fun _ w => inv w.net)
        (.step fun w here => ⟨carries.sleep _ w.net here, carries.sleep _ w.net here⟩) fun cause => ?_
      cases cause with
      | none => exact .pure fun w here => here
      | some cause => exact .throw fun w here => here.1
    · exact attempt

theorem roundTrip_delivers (carries : Carries net request inv good) : Delivers inv good (roundTrip net client request) :=
  .bind _ wire_beforeRequest_delivers fun _ => (roundTripFrom_delivers client carries _ _).weaken fun _ here => here.1

theorem reauthenticate_delivers (carries : Carries net request inv good) (config : LTPAConfig) (seenToken : Nat) :
    Delivers inv (fun _ s => inv s) (reauthenticate net config seenToken) := by
  refine .bind (fun _ w => inv w.net) (.step fun w here => ⟨here, here⟩) fun gen => ?_
  split
  · refine .bind (fun _ w => inv w.net)
      (.step fun w here => ⟨carries.login config w.net here.1, carries.login config w.net here.1⟩) fun result => ?_
    refine .bind (fun _ w => inv w.net) (.ofExcept fun w here => ⟨here.1, fun _ _ => here.1⟩) fun cookies => ?_
    exact .step fun w here => here
  · exact .pure fun w here => here

theorem ensureLoggedIn_delivers (carries : Carries net request inv good) (config : LTPAConfig) :
    Delivers inv (fun _ s => inv s) (ensureLoggedIn net config) := by
  refine .bind (fun _ w => inv w.net) (.step fun w here => ⟨here, here⟩) fun session => ?_
  split
  · refine .bind _ ((reauthenticate_delivers carries config _).weaken fun w here => here.1) fun _ => ?_
    exact .step fun w here => here
  · exact .step fun w here => here

/-- Through logins, refusals and retries the invariant stays, and the answer that is returned is a good one. -/
theorem roundTripWithReauth_delivers (carries : Carries net request inv good) :
    Delivers inv good (roundTripWithReauth net client request) := by
  unfold roundTripWithReauth
  split
  · exact roundTrip_delivers client carries
  next config _ =>
    refine .bind _ (ensureLoggedIn_delivers carries config) fun seenToken => ?_
    refine .bind _ ((roundTrip_delivers client carries).weaken fun w here => here.1) fun res => ?_
    split
    · exact .pure fun w here => here
    next rejected =>
      split
      · exact .pure fun w here => ⟨here.1, carries.unauthorized _ _ (not_not.mp rejected)⟩
      · split
        · exact .pure fun w here => here
        · refine .bind _ ((reauthenticate_delivers carries config seenToken).weaken fun w here => here.1) fun _ => ?_
          exact (roundTrip_delivers client carries).weaken fun w here => here.1

end Delivery

end MKurator.MqRest
