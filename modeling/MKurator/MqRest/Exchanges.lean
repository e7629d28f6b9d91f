import MKurator.MqRest.Transport

/-! What a request meets on its way to mqweb, exchange by exchange. A record of the exchanges changes nothing in what the
client does, and the last one explains the error that it returns. -/

namespace MKurator.MqRest
open MKurator.MqAdmin MKurator.Lib MKurator.Lib.Fallible

/-- A pause that may be cut short, an attempt with its result, or a login with its result. -/
inductive Exchange where
  | pause (aborted : Option String)
  | sent (result : SendResult)
  | login (result : LoginResult)

section Recording

variable {σ : Type} (net : Network σ) (client : Client)

def Network.recorded : Network (σ × List Exchange) where
  now s := net.now s.1
  sleepWithContext d s :=
    ((net.sleepWithContext d s.1).1, (net.sleepWithContext d s.1).2, s.2 ++ [.pause (net.sleepWithContext d s.1).1])
  send request cookies s :=
    ((net.send request cookies s.1).1, (net.send request cookies s.1).2, s.2 ++ [.sent (net.send request cookies s.1).1])
  login config s := ((net.login config s.1).1, (net.login config s.1).2, s.2 ++ [.login (net.login config s.1).1])
  unmarshal := net.unmarshal
  errorMsgIDs := net.errorMsgIDs

theorem recorded_errorMsgIDs : net.recorded.errorMsgIDs = net.errorMsgIDs := rfl

def Wire.forget (w : Wire (σ × List Exchange)) : Wire σ := ⟨w.breaker, w.session, w.net.1⟩

def Wire.recording (w : Wire σ) : Wire (σ × List Exchange) := ⟨w.breaker, w.session, w.net, []⟩

abbrev Wire.log (w : Wire (σ × List Exchange)) : List Exchange := w.net.2

theorem beforeRequest_simulated :
    Simulates Wire.forget (Wire.beforeRequest net.recorded) (Wire.beforeRequest net) := by
  refine .bind (.step fun _ => rfl) fun refused => ?_
  cases refused with
  | none => exact .pure ()
  | some e => exact .throw e

theorem recordFailure_simulated :
    Simulates Wire.forget (Wire.recordFailure net.recorded) (Wire.recordFailure net) :=
  .step fun _ => rfl

theorem sleepWithContext_simulated (d : Int64) :
    Simulates Wire.forget (sleepWithContext net.recorded d) (sleepWithContext net d) := by
  refine .bind (.step fun _ => rfl) fun aborted => ?_
  cases aborted with
  | none => exact .pure ()
  | some cause => exact .throw _

theorem settleAttempt_simulated (remaining : Nat) (lastNetErr : Option String)
    {again : Option String → Fallible (Wire (σ × List Exchange)) MqError HttpResponse}
    {again' : Option String → Fallible (Wire σ) MqError HttpResponse}
    (later : ∀ err, Simulates Wire.forget (again err) (again' err)) (result : SendResult) :
    Simulates Wire.forget (settleAttempt net.recorded client remaining lastNetErr again result)
      (settleAttempt net client remaining lastNetErr again' result) := by
  cases result with
  | unbuildable cause => exact .throw _
  | aborted cause => exact .throw _
  | failed cause =>
    rw [settleAttempt, settleAttempt]
    split
    · exact .bind (recordFailure_simulated net) fun _ => .throw _
    · exact later _
  | answered response =>
    rw [settleAttempt, settleAttempt]
    split
    · split
      · exact later _
      · exact .bind (recordFailure_simulated net) fun _ => .throw _
    · exact .bind (.step fun _ => rfl) fun _ => .pure response

variable (request : MqscRequest)

theorem roundTripFrom_simulated (remaining : Nat) (lastNetErr : Option String) :
    Simulates Wire.forget (roundTripFrom net.recorded client request remaining lastNetErr)
      (roundTripFrom net client request remaining lastNetErr) := by
  induction remaining generalizing lastNetErr with
  | zero =>
    refine .bind (recordFailure_simulated net) fun _ => ?_
    cases lastNetErr with
    | none => exact .throw _
    | some cause => exact .throw _
  | succ remaining ih =>
    have attempt := settleAttempt_simulated net client remaining lastNetErr ih
    rw [roundTripFrom, roundTripFrom]
    simp only
    split
    · exact .bind (sleepWithContext_simulated net _) fun _ => .bind (.step fun _ => rfl) attempt
    · exact .bind (.step fun _ => rfl) attempt

theorem roundTrip_simulated :
    Simulates Wire.forget (roundTrip net.recorded client request) (roundTrip net client request) :=
  .bind (beforeRequest_simulated net) fun _ => roundTripFrom_simulated net client request _ _

theorem reauthenticate_simulated (config : LTPAConfig) (seenToken : Nat) :
    Simulates Wire.forget (reauthenticate net.recorded config seenToken) (reauthenticate net config seenToken) := by
  refine .bind (.step fun _ => rfl) fun gen => ?_
  split
  · exact .bind (.step fun _ => rfl) fun result => .bind (.ofExcept _) fun cookies => .step fun _ => rfl
  · exact .pure _

theorem ensureLoggedIn_simulated (config : LTPAConfig) :
    Simulates Wire.forget (ensureLoggedIn net.recorded config) (ensureLoggedIn net config) := by
  refine .bind (.step fun _ => rfl) fun session => ?_
  split
  · exact .bind (reauthenticate_simulated net config _) fun _ => .step fun _ => rfl
  · exact .step fun _ => rfl

theorem roundTripWithReauth_simulated :
    Simulates Wire.forget (roundTripWithReauth net.recorded client request) (roundTripWithReauth net client request) := by
  unfold roundTripWithReauth
  split
  · exact roundTrip_simulated net client request
  · refine .bind (ensureLoggedIn_simulated net _) fun seenToken =>
      .bind (roundTrip_simulated net client request) fun res => ?_
    rw [recorded_errorMsgIDs]
    split
    · exact .pure res
    · split
      · exact .pure _
      · split
        · exact .pure res
        · exact .bind (reauthenticate_simulated net _ seenToken) fun _ => roundTrip_simulated net client request

def met (w : Wire σ) : List Exchange := ((roundTripWithReauth net.recorded client request).after w.recording).log

theorem outcome_recorded (w : Wire σ) :
    (roundTripWithReauth net client request).outcome w =
      (roundTripWithReauth net.recorded client request).outcome w.recording :=
  (roundTripWithReauth_simulated net client request w.recording).1

end Recording

namespace Exchange

def unauthorized : Exchange → Bool
  | .sent (.answered res) => res.status == 401
  | _ => false

end Exchange

/-- Nothing has failed yet: there was no exchange, or the last one is a login that gave cookies. -/
def Idle (log : List Exchange) : Prop :=
  log = [] ∨ ∃ before result cookies, log = before ++ [.login result] ∧ loginCookies result = .ok cookies

/-- How the exchanges of a request explain its error: all but the refusal of the breaker follow from the last one. -/
inductive Explains (client : Client) : List Exchange → MqError → Prop
  | refused {log : List Exchange} (idle : Idle log) : Explains client log circuitOpenError
  | paused (before : List Exchange) (cause : String) :
      Explains client (before ++ [.pause (some cause)]) (.transientCaused "mqweb retry backoff aborted" (.plain cause))
  | unbuildable (before : List Exchange) (cause : String) :
      Explains client (before ++ [.sent (.unbuildable cause)]) (.wrapped "build mqweb request" (.plain cause))
  | aborted (before : List Exchange) (cause : String) :
      Explains client (before ++ [.sent (.aborted cause)]) (.transientCaused "mqweb request aborted" (.plain cause))
  | rejected (before : List Exchange) {cause : String}
      (rejection : (client.clientCertMode && isClientCertRejection cause) = true) :
      Explains client (before ++ [.sent (.failed cause)]) clientCertRejectionError
  | failed (before : List Exchange) {cause : String}
      (ordinary : (client.clientCertMode && isClientCertRejection cause) = false) :
      Explains client (before ++ [.sent (.failed cause)]) (.transientCaused "mqweb request failed" (.plain cause))
  | exhausted (before : List Exchange) {res : HttpResponse} (retryable : isRetryableHTTPStatus res.status = true) :
      Explains client (before ++ [.sent (.answered res)]) (.transient (httpStatusMessage res.status))
  | login (before : List Exchange) {result : LoginResult} {e : MqError} (stopped : loginCookies result = .error e) :
      Explains client (before ++ [.login result]) e

section Explanation

variable {σ : Type} (net : Network σ) (client : Client) (request : MqscRequest)

def Steady (kept : List Exchange → Prop) : Prop :=
  ∀ log exchange, exchange.unauthorized = false → kept log → kept (log ++ [exchange])

def Wire.Kept (kept : List Exchange → Prop) (gen : Nat) (w : Wire (σ × List Exchange)) : Prop :=
  kept w.log ∧ w.session.gen = gen

def Wire.AnsweredBy (kept : List Exchange → Prop) (gen : Nat) (res : HttpResponse) (w : Wire (σ × List Exchange)) : Prop :=
  isRetryableHTTPStatus res.status = false ∧ w.session.gen = gen ∧
    ∃ before, kept before ∧ w.log = before ++ [.sent (.answered res)]

def Wire.OutOfAttempts (lastNetErr : Option String) (w : Wire (σ × List Exchange)) : Prop :=
  ∃ before cause, lastNetErr = some cause ∧ (client.clientCertMode && isClientCertRejection cause) = false ∧
    w.log = before ++ [.sent (.failed cause)]

variable {kept : List Exchange → Prop} {gen : Nat}

theorem beforeRequest_triple :
    Triple (fun w => Wire.Kept kept gen w ∧ Idle w.log) (fun _ => Wire.Kept kept gen)
      (fun e w => Explains client w.log e) (Wire.beforeRequest net.recorded) := by
  intro w ⟨here, idle⟩
  unfold Wire.beforeRequest
  rw [outcome_bind_ok (outcome_step _ w), after_bind]
  simp only [outcome_step, after_step]
  cases refused : (w.breaker.beforeRequest (net.recorded.now w.net)).1 with
  | none => exact ⟨fun _ _ => here, nofun⟩
  | some e =>
    refine ⟨nofun, fun e' stopped => ?_⟩
    cases stopped
    rw [beforeRequest_error _ _ refused]
    exact .refused idle

theorem sleepWithContext_triple (steady : Steady kept) (d : Int64) :
    Triple (Wire.Kept kept gen) (fun _ => Wire.Kept kept gen) (fun e w => Explains client w.log e)
      (sleepWithContext net.recorded d) := by
  refine .bind (fun aborted w => Wire.Kept kept gen w ∧ ∃ before, w.log = before ++ [.pause aborted])
    (.step fun w here => ⟨⟨steady _ _ rfl here.1, here.2⟩, w.log, rfl⟩) fun aborted => ?_
  cases aborted with
  | none => exact .pure fun w here => here.1
  | some cause =>
    refine .throw fun w here => ?_
    obtain ⟨-, before, ends⟩ := here
    rw [ends]
    exact .paused before cause

def Wire.Attempted (kept : List Exchange → Prop) (gen : Nat) (result : SendResult) (w : Wire (σ × List Exchange)) : Prop :=
  w.session.gen = gen ∧ ∃ before, kept before ∧ w.log = before ++ [.sent result]

theorem Wire.Attempted.throws {result : SendResult} {e : MqError} {answered : HttpResponse → Wire (σ × List Exchange) → Prop}
    (explained : ∀ before, Explains client (before ++ [.sent result]) e) :
    Triple (Wire.Attempted kept gen result) answered (fun e w => Explains client w.log e) (throw e) := by
  refine .throw fun w here => ?_
  obtain ⟨-, before, -, ends⟩ := here
  rw [ends]
  exact explained before

theorem settleAttempt_triple (steady : Steady kept) (remaining : Nat) (lastNetErr : Option String)
    {again : Option String → Fallible (Wire (σ × List Exchange)) MqError HttpResponse}
    (later : ∀ err, Triple (fun w => Wire.Kept kept gen w ∧ (remaining = 0 → w.OutOfAttempts client err))
      (Wire.AnsweredBy kept gen) (fun e w => Explains client w.log e) (again err)) (result : SendResult) :
    Triple (Wire.Attempted kept gen result) (Wire.AnsweredBy kept gen) (fun e w => Explains client w.log e)
      (settleAttempt net.recorded client remaining lastNetErr again result) := by
  cases result with
  | unbuildable cause => exact Wire.Attempted.throws client fun before => .unbuildable before cause
  | aborted cause => exact Wire.Attempted.throws client fun before => .aborted before cause
  | failed cause =>
    rw [settleAttempt]
    split
    next rejection =>
      refine .bind (fun _ => Wire.Attempted kept gen (.failed cause)) (.step fun w here => here) fun _ => ?_
      exact Wire.Attempted.throws client fun before => .rejected before rejection
    next ordinary =>
      refine (later _).weaken fun w here => ?_
      obtain ⟨same, before, held, ends⟩ := here
      refine ⟨⟨ends ▸ steady _ _ rfl held, same⟩, fun _ => ⟨before, cause, rfl, ?_, ends⟩⟩
      exact Bool.eq_false_iff.mpr ordinary
  | answered response =>
    rw [settleAttempt]
    split
    next retryable =>
      -- a status to try again is never 401
      have other : (Exchange.sent (.answered response)).unauthorized = false := by
        apply beq_eq_false_iff_ne.mpr
        intro unauthorized
        rw [unauthorized] at retryable
        exact absurd retryable (by decide)
      split
      next more =>
        refine (later _).weaken fun w here => ?_
        obtain ⟨same, before, held, ends⟩ := here
        exact ⟨⟨ends ▸ steady _ _ other held, same⟩, fun none => absurd none (Nat.ne_of_gt more)⟩
      next =>
        refine .bind (fun _ => Wire.Attempted kept gen (.answered response)) (.step fun w here => here) fun _ => ?_
        exact Wire.Attempted.throws client fun before => .exhausted before retryable
    next final =>
      refine .bind (fun _ => Wire.Attempted kept gen (.answered response)) (.step fun w here => here) fun _ =>
        .pure fun w here => ?_
      exact ⟨Bool.eq_false_iff.mpr final, here⟩

theorem roundTripFrom_triple (steady : Steady kept) (remaining : Nat) (lastNetErr : Option String) :
    Triple (fun w => Wire.Kept kept gen w ∧ (remaining = 0 → w.OutOfAttempts client lastNetErr))
      (Wire.AnsweredBy kept gen) (fun e w => Explains client w.log e)
      (roundTripFrom net.recorded client request remaining lastNetErr) := by
  induction remaining generalizing lastNetErr with
  | zero =>
    refine .bind (fun _ w => w.OutOfAttempts client lastNetErr) (.step fun w here => here.2 rfl) fun _ => ?_
    cases lastNetErr with
    | none => exact .throw fun w ⟨_, _, impossible, _⟩ => by cases impossible
    | some cause =>
      refine .throw fun w here => ?_
      obtain ⟨before, _, same, ordinary, ends⟩ := here
      cases same
      rw [ends]
      exact .failed before ordinary
  | succ remaining ih =>
    have attempt := settleAttempt_triple net client steady remaining lastNetErr ih
    have sends : Triple (Wire.Kept kept gen) (Wire.Attempted kept gen) (fun e w => Explains client w.log e)
        (Fallible.step fun w =>
          let (result, later) := net.recorded.send request w.session.cookies w.net
          (result, { w with net := later })) :=
      .step fun w here => ⟨here.2, w.log, here.1, rfl⟩
    rw [roundTripFrom]
    simp only
    split
    · refine Triple.weaken (.bind _ (sleepWithContext_triple net client steady _) fun _ => .bind _ sends attempt) ?_
      exact fun w here => here.1
    · exact Triple.weaken (.bind _ sends attempt) fun w here => here.1

theorem roundTrip_triple (steady : Steady kept) :
    Triple (fun w => Wire.Kept kept gen w ∧ Idle w.log) (Wire.AnsweredBy kept gen) (fun e w => Explains client w.log e)
      (roundTrip net.recorded client request) := by
  refine .bind _ (beforeRequest_triple net client) fun _ => ?_
  refine (roundTripFrom_triple net client request steady _ none).weaken fun w here => ⟨here, fun none => ?_⟩
  exact absurd none (Nat.ne_of_gt client.retry.maxAttempts_pos)

theorem reauthenticate_triple (steady : Steady kept) (config : LTPAConfig) :
    Triple (Wire.Kept kept gen) (fun _ w => Wire.Kept kept (gen + 1) w ∧ Idle w.log) (fun e w => Explains client w.log e)
      (reauthenticate net.recorded config gen) := by
  refine .bind (fun found w => found = gen ∧ Wire.Kept kept gen w) (.step fun w here => ⟨here.2, here⟩) fun found => ?_
  split
  next =>
    refine .bind (fun result w => w.session.gen = gen ∧ ∃ before, kept before ∧ w.log = before ++ [.login result])
      (.step fun w here => ⟨here.2.2, w.log, here.2.1, rfl⟩) fun result => ?_
    refine .bind (fun cookies w => (w.session.gen = gen ∧ ∃ before, kept before ∧ w.log = before ++ [.login result]) ∧
      loginCookies result = .ok cookies) (.ofExcept (fun w here cookies gained => ⟨here, gained⟩) ?_) fun cookies => ?_
    · intro w here e stopped
      obtain ⟨-, before, -, ends⟩ := here
      rw [ends]
      exact .login before stopped
    · refine .step fun w here => ?_
      obtain ⟨⟨same, before, held, ends⟩, gained⟩ := here
      refine ⟨⟨?_, congrArg (· + 1) same⟩, .inr ⟨before, result, cookies, ends, gained⟩⟩
      change kept w.log
      rw [ends]
      exact steady _ _ rfl held
  next other => exact .pure fun w here => absurd here.1 other

def Unchallenged (log : List Exchange) : Prop := ∀ exchange ∈ log, exchange.unauthorized = false

def Challenged (log : List Exchange) : Prop := ∃ exchange ∈ log, exchange.unauthorized = true

theorem steady_unchallenged : Steady Unchallenged := by
  intro log exchange other held
  rw [Unchallenged, List.forall_mem_append]
  exact ⟨held, List.forall_mem_singleton.mpr other⟩

theorem steady_challenged : Steady Challenged := by
  intro log exchange _ held
  obtain ⟨earlier, member, unauthorized⟩ := held
  exact ⟨earlier, List.mem_append_left _ member, unauthorized⟩

theorem ensureLoggedIn_triple (config : LTPAConfig) :
    Triple (fun w => w.log = []) (fun token w => Wire.Kept Unchallenged token w ∧ Idle w.log)
      (fun e w => Explains client w.log e) (ensureLoggedIn net.recorded config) := by
  refine .bind (fun session w => w.log = [] ∧ w.session = session) (.step fun w here => ⟨here, rfl⟩) fun session => ?_
  have unmet : ∀ w : Wire (σ × List Exchange), w.log = [] ∧ w.session = session → Wire.Kept Unchallenged session.gen w := by
    rintro w ⟨empty, rfl⟩
    refine ⟨?_, rfl⟩
    rw [empty]
    exact List.forall_mem_nil _
  split
  · refine .bind _ ((reauthenticate_triple net client steady_unchallenged config).weaken unmet) fun _ => ?_
    exact .step fun w here => ⟨⟨here.1.1, rfl⟩, here.2⟩
  · exact .step fun w here => ⟨⟨(unmet w here).1, rfl⟩, .inl here.1⟩

/-- An LTPA client reads the body of the first 401, to see whether it should log in again, and this failed. -/
def PeekFails (client : Client) (before : List Exchange) (last : HttpResponse) : Prop :=
  client.ltpa.isSome = true ∧ last.status = 401 ∧ Unchallenged before ∧ ∃ cause, last.body = .error cause

/-- The response that is handed on is the last one that was received; only a body that could not be peeked into is
replaced by an empty one. -/
inductive Delivered (client : Client) : List Exchange → HttpResponse → Prop
  | whole {before : List Exchange} {last : HttpResponse} (final : isRetryableHTTPStatus last.status = false)
      (unpeeked : ¬ PeekFails client before last) : Delivered client (before ++ [.sent (.answered last)]) last
  | emptied {before : List Exchange} {last : HttpResponse} (peeked : PeekFails client before last) :
      Delivered client (before ++ [.sent (.answered last)]) { last with body := .ok "" }

theorem roundTripWithReauth_triple :
    Triple (fun w => w.log = []) (fun res w => Delivered client w.log res) (fun e w => Explains client w.log e)
      (roundTripWithReauth net.recorded client request) := by
  unfold roundTripWithReauth
  split
  next plain =>
    have start : ∀ w : Wire (σ × List Exchange), w.log = [] → Wire.Kept Unchallenged w.session.gen w ∧ Idle w.log := by
      intro w empty
      rw [Wire.Kept, empty]
      exact ⟨⟨List.forall_mem_nil _, rfl⟩, .inl rfl⟩
    intro w empty
    have trip := roundTrip_triple net client request steady_unchallenged w (start w empty)
    refine ⟨fun res answered => ?_, trip.2⟩
    obtain ⟨final, -, before, -, ends⟩ := trip.1 res answered
    rw [ends]
    exact .whole final fun ⟨session, _⟩ => by simp [plain] at session
  next config ltpa =>
    refine .bind _ (ensureLoggedIn_triple net client config) fun seenToken => ?_
    refine .bind _ (roundTrip_triple net client request steady_unchallenged) fun res => ?_
    split
    next other =>
      refine .pure fun w here => ?_
      obtain ⟨final, -, before, -, ends⟩ := here
      rw [ends]
      exact .whole final fun ⟨_, unauthorized, _⟩ => other unauthorized
    next unauthorized =>
      have status : res.status = 401 := not_not.mp unauthorized
      split
      next cause unread =>
        refine .pure fun w here => ?_
        obtain ⟨-, -, before, unchallenged, ends⟩ := here
        rw [ends]
        exact .emptied ⟨by simp [ltpa], status, unchallenged, cause, unread⟩
      next body read =>
        split
        next =>
          refine .pure fun w here => ?_
          obtain ⟨final, -, before, -, ends⟩ := here
          rw [ends]
          refine .whole final fun ⟨_, _, _, cause, unread⟩ => ?_
          rw [read] at unread
          cases unread
        next =>
          -- the record now holds the first 401, so that the answer to the retry is not peeked into
          have challenged : ∀ w : Wire (σ × List Exchange), Wire.AnsweredBy Unchallenged seenToken res w →
              Wire.Kept Challenged seenToken w := by
            rintro w ⟨-, same, before, -, ends⟩
            refine ⟨⟨.sent (.answered res), ?_, beq_iff_eq.mpr status⟩, same⟩
            rw [ends]
            exact List.mem_append_right _ (List.mem_singleton.mpr rfl)
          refine .bind _ ((reauthenticate_triple net client steady_challenged config).weaken challenged) fun _ => ?_
          refine (roundTrip_triple net client request steady_challenged).conclude fun second w here => ?_
          obtain ⟨final, -, before, ⟨earlier, member, refused⟩, ends⟩ := here
          rw [ends]
          refine .whole final fun ⟨_, _, unchallenged, _⟩ => ?_
          rw [unchallenged earlier member] at refused
          cases refused

end Explanation

end MKurator.MqRest
