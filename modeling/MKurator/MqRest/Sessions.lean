import MKurator.MqRest.Traffic

/-! One request of an LTPA client, cut into the steps between which other requests of the client can move. A step is what
`roundTripWithReauth` does in one critical section of the authenticator or the breaker, or between two of them; a login
holds the authenticator's lock throughout, so it is one step. -/

namespace MKurator.MqRest
open MKurator.MqAdmin MKurator.Lib MKurator.Lib.Fallible

/-- The two round trips of a request. The retry keeps which generation of the cookies was refused. -/
inductive Leg where
  | first (seenToken : Nat)
  | retry (refused : Nat)

inductive Stage where
  | entered
  | loginNeeded (seen : Nat)
  | loggedIn
  | calling (leg : Leg)
  | attempting (leg : Leg) (loop : Attempts)
  /-- The attempt has taken its cookies and is on its way. -/
  | waiting (leg : Leg) (loop : Attempts) (attached : LTPASession)
  /-- Answered 401 with the classifier, for cookies of generation `sent`. -/
  | refused (seenToken sent : Nat)
  | returned (result : Except MqError HttpResponse)

/-- What a request meets at its next step: the answer to a login or to an attempt, or a pause that may be cut short. -/
inductive Input where
  | go
  | login (result : LoginResult)
  | paused (aborted : Option String)
  | answer (result : SendResult)

/-- Where a login comes from: `ensureLoggedIn`, or a refused request. -/
inductive LoginKind where
  | initial
  | again
  deriving DecidableEq, Repr

inductive Happening where
  | login (request : Nat) (kind : LoginKind) (replaced : Nat) (success : Bool)
  | roundTrip (request : Nat)
  | sent (request gen : Nat) (cookies : List String)
  | refused (request gen : Nat)
  deriving DecidableEq, Repr

structure Shared where
  breaker : CircuitBreaker
  session : LTPASession

structure Move where
  stage : Stage
  shared : Shared
  record : Option Happening

/-- `shouldReauthenticate`, for a body that could be read. -/
def shouldReauthenticate (errorMsgIDs : String → List String) (res : HttpResponse) : Bool :=
  res.status == 401 &&
    match res.body with
    | .error _ => false
    | .ok body => errorMsgIDs body |>.contains ltpaClassifierReauth

/-- A 401 is returned with the body that was read to classify it. -/
def peeked (res : HttpResponse) : HttpResponse :=
  if res.status ≠ 401 then res
  else
    match res.body with
    | .error _ => { res with body := .ok "" }
    | .ok _ => res

namespace Shared

variable (shared : Shared) (request : Nat)

/-- `reauthenticate` for one of its two callers; `result` is what its login meets, if there is one. -/
def reauthenticate (kind : LoginKind) (seenToken : Nat) (next : Stage) (result : LoginResult) : Move :=
  if shared.session.gen ≠ seenToken then ⟨next, shared, none⟩
  else
    match loginCookies result with
    | .error e => ⟨.returned (.error e), shared, some (.login request kind shared.session.gen false)⟩
    | .ok cookies =>
      ⟨next, { shared with session := ⟨cookies, shared.session.gen + 1⟩ },
        some (.login request kind shared.session.gen true)⟩

/-- A turn of the attempt loop ends; `attached` is the generation of the cookies that an answered attempt carried. -/
def turnEnded (errorMsgIDs : String → List String) (clock : Int) (leg : Leg) (attached : Option Nat) : Progress → Move
  | .again next => ⟨.attempting leg next, shared, none⟩
  | .returned report result =>
    let shared := { shared with breaker := shared.breaker.record clock report }
    match leg, attached, result with
    | .first seenToken, some gen, .ok res =>
      if shouldReauthenticate errorMsgIDs res then ⟨.refused seenToken gen, shared, some (.refused request gen)⟩
      else ⟨.returned (.ok (peeked res)), shared, none⟩
    | _, _, result => ⟨.returned result, shared, none⟩

end Shared

namespace Stage

/-- The inputs that can be a request's next. Only an attempt after the first one is preceded by a pause. -/
def Awaits (client : Client) : Stage → Input → Prop
  | .entered, .go | .loggedIn, .go | .calling _, .go => True
  | .loginNeeded _, .login _ | .refused .., .login _ => True
  | .attempting _ loop, .paused aborted => aborted.isSome → loop.remaining < client.retry.maxAttempts
  | .waiting .., .answer _ => True
  | _, _ => False

def move (client : Client) (errorMsgIDs : String → List String) (clock : Int) (shared : Shared) (request : Nat) :
    Stage → Input → Move
  | .entered, _ =>
    if shared.session.cookies = [] then ⟨.loginNeeded shared.session.gen, shared, none⟩
    else ⟨.calling (.first shared.session.gen), shared, none⟩
  | .loginNeeded seen, .login result => shared.reauthenticate request .initial seen .loggedIn result
  | .loggedIn, _ => ⟨.calling (.first shared.session.gen), shared, none⟩
  | .calling leg, _ =>
    match shared.breaker.beforeRequest clock with
    | (some e, after) => ⟨.returned (.error e), { shared with breaker := after }, some (.roundTrip request)⟩
    | (none, after) =>
      ⟨.attempting leg ⟨client.retry.maxAttempts, none⟩, { shared with breaker := after }, some (.roundTrip request)⟩
  | .attempting leg loop, .paused aborted =>
    if 0 < loop.remaining ∧ aborted = none then
      ⟨.waiting leg loop shared.session, shared, some (.sent request shared.session.gen shared.session.cookies)⟩
    else shared.turnEnded request errorMsgIDs clock leg none (loop.advance client (.backoffAborted (aborted.getD "")))
  | .waiting leg loop attached, .answer result =>
    shared.turnEnded request errorMsgIDs clock leg (some attached.gen) (loop.advance client (.sent result))
  | .refused seenToken sent, .login result =>
    shared.reauthenticate request .again seenToken (.calling (.retry sent)) result
  | stage, _ => ⟨stage, shared, none⟩

end Stage

section Alone

variable {σ : Type} (net : Network σ) (client : Client) (config : LTPAConfig) (request : MqscRequest)

/-- What `roundTripWithReauth` does with the answer to its first round trip. -/
def afterFirst (seenToken : Nat) (res : HttpResponse) : Fallible (Wire σ) MqError HttpResponse := do
  if res.status ≠ 401 then return res
  match res.body with
  | .error _ => return { res with body := .ok "" }
  | .ok body =>
    if ltpaClassifierReauth ∉ net.errorMsgIDs body then return res
    reauthenticate net config seenToken
    roundTrip net client request

def Leg.finish : Leg → HttpResponse → Fallible (Wire σ) MqError HttpResponse
  | .first seenToken => afterFirst net client config request seenToken
  | .retry _ => pure

/-- What is still to be done from a stage on, when no other request intervenes. -/
def Stage.rest : Stage → Fallible (Wire σ) MqError HttpResponse
  | .entered => do
    let seenToken ← ensureLoggedIn net config
    roundTrip net client request >>= Leg.finish net client config request (.first seenToken)
  | .loginNeeded seen => do
    reauthenticate net config seen
    let seenToken ← Fallible.step fun w => (w.session.gen, w)
    roundTrip net client request >>= Leg.finish net client config request (.first seenToken)
  | .loggedIn => do
    let seenToken ← Fallible.step fun w => (w.session.gen, w)
    roundTrip net client request >>= Leg.finish net client config request (.first seenToken)
  | .calling leg => roundTrip net client request >>= leg.finish net client config request
  | .attempting leg loop =>
    roundTripFrom net client request loop.remaining loop.lastNetErr >>= leg.finish net client config request
  | .waiting leg loop attached => do
    let result ← Wire.use (net.send request attached.cookies)
    (loop.advance client (.sent result)).resume net (roundTripFrom net client request) >>=
      leg.finish net client config request
  | .refused seenToken _ => do
    reauthenticate net config seenToken
    roundTrip net client request
  | .returned result => Fallible.ofExcept result

theorem roundTripWithReauth_eq_rest (mode : client.ltpa = some config) :
    roundTripWithReauth net client request = Stage.rest net client config request .entered := by
  rw [roundTripWithReauth, mode]
  rfl

theorem report_apply (report : Option Verdict) (w : Wire σ) :
    Wire.report net report w = (.ok (), { w with breaker := w.breaker.record (net.now w.net) report }) := by
  rcases report with _ | (_ | _)
  · rfl
  · rfl
  · rfl

def Move.wire (move : Move) (later : σ) : Wire σ := ⟨move.shared.breaker, move.shared.session, later⟩

theorem shouldReauthenticate_iff (errorMsgIDs : String → List String) (res : HttpResponse) :
    shouldReauthenticate errorMsgIDs res = true ↔
      res.status = 401 ∧ ∃ body, res.body = .ok body ∧ ltpaClassifierReauth ∈ errorMsgIDs body := by
  unfold shouldReauthenticate
  cases res.body with
  | error cause => simp
  | ok body => simp

theorem afterFirst_of_signal (seenToken : Nat) {res : HttpResponse}
    (signal : shouldReauthenticate net.errorMsgIDs res = true) :
    afterFirst net client config request seenToken res = (do
      reauthenticate net config seenToken
      roundTrip net client request) := by
  obtain ⟨unauthorized, body, read, classified⟩ := (shouldReauthenticate_iff _ _).mp signal
  rw [afterFirst, if_neg (not_not.mpr unauthorized), read]
  simp only [classified, not_true_eq_false, if_false]

theorem afterFirst_of_no_signal (seenToken : Nat) {res : HttpResponse}
    (other : shouldReauthenticate net.errorMsgIDs res = false) :
    afterFirst net client config request seenToken res = pure (peeked res) := by
  rw [afterFirst, peeked]
  by_cases unauthorized : res.status = 401
  · rw [if_neg (not_not.mpr unauthorized), if_neg (not_not.mpr unauthorized)]
    cases read : res.body with
    | error cause => rfl
    | ok body =>
      have unclassified : ltpaClassifierReauth ∉ net.errorMsgIDs body := by
        intro classified
        have signal := (shouldReauthenticate_iff net.errorMsgIDs res).mpr ⟨unauthorized, body, read, classified⟩
        rw [other] at signal
        cases signal
      simp only [unclassified, not_false_eq_true, if_true]
  · rw [if_pos unauthorized, if_pos unauthorized]

theorem turnEnded_rest (number : Nat) (leg : Leg) (attached : Option Nat) (progress : Progress) (w : Wire σ)
    (answered : attached = none → ∃ report e, progress = .returned report (.error e)) :
    let move := Shared.turnEnded ⟨w.breaker, w.session⟩ number net.errorMsgIDs (net.now w.net) leg attached progress
    (progress.resume net (roundTripFrom net client request) >>= leg.finish net client config request) w =
      move.stage.rest net client config request (move.wire w.net) := by
  cases progress with
  | again next => rfl
  | returned report result =>
    have reported : ((Progress.returned report result).resume net (roundTripFrom net client request) >>=
        leg.finish net client config request) w = (Fallible.ofExcept result >>= leg.finish net client config request)
          { w with breaker := w.breaker.record (net.now w.net) report } := by
      simp only [Progress.resume, bind_apply, report_apply]
    rw [reported]
    cases result with
    | error e => cases leg <;> cases attached <;> rfl
    | ok res =>
      cases leg with
      | retry refused => rfl
      | first seenToken =>
        cases attached with
        | none =>
          obtain ⟨_, _, unanswered⟩ := answered rfl
          cases unanswered
        | some gen =>
          have finished : ((Fallible.ofExcept (.ok res) : Fallible (Wire σ) MqError HttpResponse) >>=
              Leg.finish net client config request (.first seenToken)) =
              afterFirst net client config request seenToken res := rfl
          rw [finished, Shared.turnEnded]
          by_cases signal : shouldReauthenticate net.errorMsgIDs res = true
          · rw [afterFirst_of_signal net client config request seenToken signal]
            simp only [signal, if_true]
            rfl
          · rw [afterFirst_of_no_signal net client config request seenToken (Bool.not_eq_true _ ▸ signal)]
            simp only [signal]
            rfl

theorem reauthenticate_rest (number : Nat) (kind : LoginKind) (seen : Nat) (next : Stage) (w : Wire σ) :
    ∃ result later,
      let move := Shared.reauthenticate ⟨w.breaker, w.session⟩ number kind seen next result
      (reauthenticate net config seen >>= fun _ => next.rest net client config request) w =
        move.stage.rest net client config request (move.wire later) := by
  by_cases same : w.session.gen = seen
  · refine ⟨(net.login config w.net).1, (net.login config w.net).2, ?_⟩
    have read : reauthenticate net config seen w = (do
        let result ← Wire.use (net.login config)
        let cookies ← Fallible.ofExcept (loginCookies result)
        Fallible.step fun w => ((), { w with session := ⟨cookies, w.session.gen + 1⟩ })) w := by
      rw [reauthenticate, bind_apply]
      simp only [Fallible.step, same, if_true]
    rw [bind_apply, read, Shared.reauthenticate, if_neg (not_not.mpr same)]
    cases answer : loginCookies (net.login config w.net).1 with
    | error e => simp only [bind_apply, Wire.use, Fallible.step, Fallible.ofExcept, answer, Stage.rest, Move.wire]
    | ok cookies => simp only [bind_apply, Wire.use, Fallible.step, Fallible.ofExcept, answer, Move.wire]
  · refine ⟨.aborted "", w.net, ?_⟩
    have read : reauthenticate net config seen w = (.ok (), w) := by
      rw [reauthenticate, bind_apply]
      simp only [Fallible.step, same, if_false]
      rfl
    rw [bind_apply, read, Shared.reauthenticate, if_pos same]
    rfl

theorem advance_backoffAborted (loop : Attempts) (cause : String) :
    ∃ report e, loop.advance client (.backoffAborted cause) = .returned report (.error e) := by
  rcases loop with ⟨_ | remaining, lastNetErr⟩
  · exact ⟨_, _, rfl⟩
  · exact ⟨_, _, rfl⟩

theorem attempting_rest (number : Nat) (leg : Leg) (loop : Attempts) (w : Wire σ) :
    ∃ input later, (Stage.attempting leg loop).Awaits client input ∧
      let move := (Stage.attempting leg loop).move client net.errorMsgIDs (net.now later) ⟨w.breaker, w.session⟩ number input
      (Stage.attempting leg loop).rest net client config request w =
        move.stage.rest net client config request (move.wire later) := by
  rcases loop with ⟨remaining, lastNetErr⟩
  cases remaining with
  | zero =>
    have exhausted : roundTripFrom net client request 0 lastNetErr =
        (gaveUp lastNetErr).resume net (roundTripFrom net client request) := by
      cases lastNetErr <;> rfl
    refine ⟨.paused none, w.net, nofun, ?_⟩
    rw [Stage.rest, exhausted]
    exact turnEnded_rest net client config request number leg none (gaveUp lastNetErr) w
      fun _ => advance_backoffAborted client ⟨0, lastNetErr⟩ ""
  | succ remaining =>
    by_cases later : 0 < client.retry.maxAttempts - (remaining + 1)
    · cases pause : net.sleepWithContext (client.retry.backoff (client.retry.maxAttempts - (remaining + 1))) w.net with
      | mk aborted slept =>
        have turned : Wire.turn net client request (remaining + 1) w = (match aborted with
            | some cause => (.ok (.backoffAborted cause), { w with net := slept })
            | none => (.ok (.sent (net.send request w.session.cookies slept).1),
                { w with net := (net.send request w.session.cookies slept).2 })) := by
          rw [Wire.turn]
          simp only [later, if_true, bind_apply, Wire.use, Fallible.step, pause]
          cases aborted <;> rfl
        refine ⟨.paused aborted, slept, fun _ => Nat.lt_of_sub_pos later, ?_⟩
        rw [Stage.rest, roundTripFrom_eq_advance, bind_assoc, bind_apply, turned]
        cases aborted with
        | some cause =>
          exact turnEnded_rest net client config request number leg none _ { w with net := slept }
            fun _ => advance_backoffAborted client ⟨remaining + 1, lastNetErr⟩ cause
        | none => rfl
    · have turned : Wire.turn net client request (remaining + 1) w =
          (.ok (.sent (net.send request w.session.cookies w.net).1),
            { w with net := (net.send request w.session.cookies w.net).2 }) := by
        rw [Wire.turn]
        simp only [later, if_false, bind_apply]
        rfl
      refine ⟨.paused none, w.net, nofun, ?_⟩
      rw [Stage.rest, roundTripFrom_eq_advance, bind_assoc, bind_apply, turned]
      rfl

/-- A request that no other one disturbs takes the steps of `move`. -/
theorem Stage.rest_step (number : Nat) (stage : Stage) (inProgress : ∀ result, stage ≠ .returned result) (w : Wire σ) :
    ∃ input later, stage.Awaits client input ∧
      let move := stage.move client net.errorMsgIDs (net.now later) ⟨w.breaker, w.session⟩ number input
      stage.rest net client config request w = move.stage.rest net client config request (move.wire later) := by
  cases stage with
  | entered =>
    refine ⟨.go, w.net, trivial, ?_⟩
    by_cases cold : w.session.cookies = []
    · simp only [Stage.move, cold, if_true]
      simp only [Stage.rest, ensureLoggedIn, bind_apply, Fallible.step, cold, if_true, Move.wire]
      rcases reauthenticate net config w.session.gen w with ⟨e | _, later⟩
      · rfl
      · rfl
    · simp only [Stage.move, cold, if_false]
      simp only [Stage.rest, ensureLoggedIn, bind_apply, Fallible.step, cold, if_false, Move.wire]
  | loginNeeded seen =>
    obtain ⟨result, later, same⟩ := reauthenticate_rest net client config request number .initial seen .loggedIn w
    exact ⟨.login result, later, trivial, same⟩
  | loggedIn => exact ⟨.go, w.net, trivial, rfl⟩
  | calling leg =>
    refine ⟨.go, w.net, trivial, ?_⟩
    rw [Stage.move, Stage.rest, roundTrip, bind_assoc, bind_apply]
    cases decision : w.breaker.beforeRequest (net.now w.net) with
    | mk refusal after =>
      have asked : Wire.beforeRequest net w = (refusal.elim (.ok ()) .error, { w with breaker := after }) := by
        rw [Wire.beforeRequest, bind_apply]
        simp only [Fallible.step, decision]
        cases refusal <;> rfl
      rw [asked]
      cases refusal <;> rfl
  | attempting leg loop => exact attempting_rest net client config request number leg loop w
  | waiting leg loop attached =>
    refine ⟨.answer (net.send request attached.cookies w.net).1, (net.send request attached.cookies w.net).2, trivial, ?_⟩
    exact turnEnded_rest net client config request number leg (some attached.gen) _
      { w with net := (net.send request attached.cookies w.net).2 } (fun absurdity => by cases absurdity)
  | refused seenToken sent =>
    obtain ⟨result, later, same⟩ :=
      reauthenticate_rest net client config request number .again seenToken (.calling (.retry sent)) w
    refine ⟨.login result, later, trivial, ?_⟩
    rw [Stage.rest, ← bind_pure (roundTrip net client request)]
    exact same
  | returned result => exact absurd rfl (inProgress result)

end Alone

end MKurator.MqRest
