import MKurator.Lib.Processes
import MKurator.Lib.System
import MKurator.MqRest.Breaker

/-! Round trips that share one client: any number of them in progress, in any interleaving, with one breaker. -/

namespace MKurator.MqRest
open MKurator.MqAdmin MKurator.Lib MKurator.Lib.Fallible MKurator.Lib.Processes

inductive Verdict where
  | success
  | failure
  deriving DecidableEq, Repr

structure Attempts where
  remaining : Nat
  lastNetErr : Option String

/-- What one turn of the loop met: the pause before it was aborted, or the request was sent. -/
inductive Turn where
  | backoffAborted (cause : String)
  | sent (result : SendResult)

/-- What a turn led to. A round trip that returns has reported to the breaker, or not. -/
inductive Progress where
  | again (next : Attempts)
  | returned (report : Option Verdict) (result : Except MqError HttpResponse)

/-- `settleAttempt` as one step. -/
def settled (client : Client) (remaining : Nat) (lastNetErr : Option String) : SendResult → Progress
  | .unbuildable cause => .returned none (.error (.wrapped "build mqweb request" (.plain cause)))
  | .aborted cause => .returned none (.error (.transientCaused "mqweb request aborted" (.plain cause)))
  | .failed cause =>
    if client.clientCertMode && isClientCertRejection cause then .returned (some .failure) (.error clientCertRejectionError)
    else .again ⟨remaining, some cause⟩
  | .answered response =>
    if isRetryableHTTPStatus response.status then
      if 0 < remaining then .again ⟨remaining, lastNetErr⟩
      else .returned (some .failure) (.error (.transient (httpStatusMessage response.status)))
    else .returned (some .success) (.ok response)

def gaveUp (lastNetErr : Option String) : Progress :=
  .returned (some .failure) (.error (match lastNetErr with
    | some cause => .transientCaused "mqweb request failed" (.plain cause)
    | none => .transient "mqweb request failed after retries"))

def Attempts.advance (client : Client) (at_ : Attempts) (turn : Turn) : Progress :=
  match at_.remaining, turn with
  | 0, _ => gaveUp at_.lastNetErr
  | _ + 1, .backoffAborted cause =>
    .returned none (.error (.transientCaused "mqweb retry backoff aborted" (.plain cause)))
  | remaining + 1, .sent result => settled client remaining at_.lastNetErr result

section Sequential

variable {σ : Type} (net : Network σ) (client : Client)

def Wire.report : Option Verdict → Fallible (Wire σ) MqError Unit
  | none => pure ()
  | some .success => Wire.recordSuccess
  | some .failure => Wire.recordFailure net

def Wire.turn (request : MqscRequest) (remaining : Nat) : Fallible (Wire σ) MqError Turn := do
  let attempt := client.retry.maxAttempts - remaining
  let aborted ← if 0 < attempt then Wire.use (net.sleepWithContext (client.retry.backoff attempt)) else pure none
  match aborted with
  | some cause => return .backoffAborted cause
  | none =>
    let result ← Fallible.step fun w =>
      let (result, later) := net.send request w.session.cookies w.net
      (result, { w with net := later })
    return .sent result

def Progress.resume (again : Nat → Option String → Fallible (Wire σ) MqError HttpResponse) :
    Progress → Fallible (Wire σ) MqError HttpResponse
  | .again next => again next.remaining next.lastNetErr
  | .returned report result => do
    Wire.report net report
    Fallible.ofExcept result

theorem settleAttempt_eq (again : Nat → Option String → Fallible (Wire σ) MqError HttpResponse) (remaining : Nat)
    (lastNetErr : Option String) (result : SendResult) :
    settleAttempt net client remaining lastNetErr (again remaining) result =
      (settled client remaining lastNetErr result).resume net again := by
  cases result with
  | unbuildable cause => rfl
  | aborted cause => rfl
  | failed cause =>
    rw [settleAttempt, settled]
    by_cases rejected : (client.clientCertMode && isClientCertRejection cause) = true
    · rw [if_pos rejected, if_pos rejected]
      rfl
    · rw [if_neg rejected, if_neg rejected]
      rfl
  | answered response =>
    rw [settleAttempt, settled]
    by_cases retryable : isRetryableHTTPStatus response.status = true
    · rw [if_pos retryable, if_pos retryable]
      by_cases more : 0 < remaining
      · rw [if_pos more, if_pos more]
        rfl
      · rw [if_neg more, if_neg more]
        rfl
    · rw [if_neg retryable, if_neg retryable]
      rfl

/-- A round trip that runs alone takes exactly the turns of `advance`. -/
theorem roundTripFrom_eq_advance (request : MqscRequest) (remaining : Nat) (lastNetErr : Option String) :
    roundTripFrom net client request (remaining + 1) lastNetErr =
      Wire.turn net client request (remaining + 1) >>= fun turn =>
        ((Attempts.mk (remaining + 1) lastNetErr).advance client turn).resume net (roundTripFrom net client request) := by
  funext w
  rw [roundTripFrom, Wire.turn]
  simp only [settleAttempt_eq net client (roundTripFrom net client request)]
  by_cases later : 0 < client.retry.maxAttempts - (remaining + 1)
  · -- The pause is the first thing that a later turn does, and its answer decides the turn.
    have paused : (Wire.use (net.sleepWithContext (client.retry.backoff (client.retry.maxAttempts - (remaining + 1)))) :
        Fallible (Wire σ) MqError (Option String)) w = (.ok _, _) := rfl
    simp only [later, if_true, sleepWithContext, bind_apply, paused]
    cases (net.sleepWithContext (client.retry.backoff (client.retry.maxAttempts - (remaining + 1))) w.net).1 with
    | some cause => rfl
    | none => rfl
  · simp only [later, if_false]
    rfl

end Sequential

/-- A round trip in progress, with how often the breaker had left the closed state when it was admitted. -/
structure InFlight extends Attempts where
  trip : Nat

/-- A client's breaker and clock, the round trips in progress, and how often the breaker has left the closed state. -/
structure Traffic where
  breaker : CircuitBreaker
  clock : Int
  calls : List InFlight
  trips : Nat

inductive TrafficEvent where
  | tick (later : Int)
  | call
  | proceed (index : Nat) (turn : Turn)

def CircuitBreaker.record (b : CircuitBreaker) (now : Int) : Option Verdict → CircuitBreaker
  | none => b
  | some .success => b.recordSuccess
  | some .failure => b.recordFailure now

namespace Traffic

def start (failureThreshold openTimeout clock : Int) : Traffic :=
  ⟨newCircuitBreaker failureThreshold openTimeout, clock, [], 0⟩

def enter (client : Client) (s : Traffic) : Traffic :=
  match s.breaker.beforeRequest s.clock with
  | (some _, after) => { s with breaker := after }
  | (none, after) =>
    { s with breaker := after, calls := s.calls ++ [⟨⟨client.retry.maxAttempts, none⟩, s.trips⟩] }

def leave (s : Traffic) (index : Nat) (report : Option Verdict) : Traffic :=
  let after := s.breaker.record s.clock report
  { s with
    breaker := after
    calls := s.calls.eraseIdx index
    trips := if s.breaker.state = .closed ∧ after.state ≠ .closed then s.trips + 1 else s.trips }

theorem leave_calls (s : Traffic) (index : Nat) (report : Option Verdict) :
    (s.leave index report).calls = s.calls.eraseIdx index := rfl

def proceed (client : Client) (s : Traffic) (index : Nat) (turn : Turn) : Traffic :=
  match s.calls[index]? with
  | none => s
  | some call =>
    match call.advance client turn with
    | .again next => { s with calls := s.calls.set index { call with toAttempts := next } }
    | .returned report _ => s.leave index report

def next (client : Client) (s : Traffic) : TrafficEvent → Traffic
  | .tick later => { s with clock := later }
  | .call => s.enter client
  | .proceed index turn => s.proceed client index turn

/-- The clock does not go back, and only an attempt after the first one is preceded by a pause. -/
def valid (client : Client) (s : Traffic) : TrafficEvent → Prop
  | .tick later => s.clock ≤ later
  | .call => True
  | .proceed index turn => ∃ call, s.calls[index]? = some call ∧
      ∀ cause, turn = .backoffAborted cause → call.remaining < client.retry.maxAttempts

end Traffic

def traffic (client : Client) : System Traffic TrafficEvent := ⟨Traffic.valid client, Traffic.next client⟩

namespace Traffic

variable {client : Client} {s : Traffic}

inductive StepCase (client : Client) (s : Traffic) : TrafficEvent → Traffic → Prop
  | tick (later : Int) : StepCase client s (.tick later) { s with clock := later }
  | refused (error : MqError) (answer : s.breaker.beforeRequest s.clock = (some error, s.breaker)) :
      StepCase client s .call s
  | admittedClosed (closed : s.breaker.state = .closed) :
      StepCase client s .call { s with calls := s.calls ++ [⟨⟨client.retry.maxAttempts, none⟩, s.trips⟩] }
  | admittedProbe (opened : s.breaker.state = .opened) :
      StepCase client s .call
        { s with
          breaker := { s.breaker with state := .halfOpen, probeInFlight := true }
          calls := s.calls ++ [⟨⟨client.retry.maxAttempts, none⟩, s.trips⟩] }
  | again (index : Nat) (turn : Turn) (call : InFlight) (found : s.calls[index]? = some call) (next : Attempts)
      (moved : call.advance client turn = .again next) :
      StepCase client s (.proceed index turn) { s with calls := s.calls.set index { call with toAttempts := next } }
  | left (index : Nat) (turn : Turn) (call : InFlight) (found : s.calls[index]? = some call) (report : Option Verdict)
      (result : Except MqError HttpResponse) (returned : call.advance client turn = .returned report result) :
      StepCase client s (.proceed index turn) (s.leave index report)

/-- A breaker whose probe flag is up exactly while it is half-open, and calls that know no later trip. -/
structure Sound (s : Traffic) : Prop where
  counts : ∃ failures latest, s.breaker.Counts failures latest
  trips : ∀ call ∈ s.calls, call.trip ≤ s.trips

theorem Sound.probing (sound : s.Sound) : s.breaker.probeInFlight = true ↔ s.breaker.state = .halfOpen := by
  obtain ⟨failures, latest, counts⟩ := sound.counts
  exact counts.probing

theorem Sound.step_cases (sound : s.Sound) {event : TrafficEvent} (possible : s.valid client event) :
    StepCase client s event (s.next client event) := by
  cases event with
  | tick later => exact .tick later
  | call =>
    rw [next, enter]
    rcases s.breaker.beforeRequest_cases s.clock with
      ⟨closed, answer⟩ | ⟨-, -, answer⟩ | ⟨opened, -, answer⟩ | ⟨-, -, answer⟩ | ⟨half, unset, -⟩
    · rw [answer]
      exact .admittedClosed closed
    · rw [answer]
      exact .refused _ answer
    · rw [answer]
      exact .admittedProbe opened
    · rw [answer]
      exact .refused _ answer
    · rw [sound.probing.mpr half] at unset
      cases unset
  | proceed index turn =>
    obtain ⟨call, found, -⟩ := possible
    rw [next, proceed, found]
    cases moved : call.advance client turn with
    | again later =>
      simp only [moved]
      exact .again index turn call found later moved
    | returned report result =>
      simp only [moved]
      exact .left index turn call found report result moved

theorem counts_record {b : CircuitBreaker} {failures : Nat} {latest : Option Int} (counts : b.Counts failures latest)
    (now : Int) (report : Option Verdict) : ∃ failures latest, (b.record now report).Counts failures latest := by
  rcases report with _ | (_ | _)
  · exact ⟨_, _, counts⟩
  · exact ⟨_, _, b.recordSuccess_counts latest⟩
  · exact ⟨_, _, counts.recordFailure now⟩

theorem Sound.start (failureThreshold openTimeout clock : Int) : (start failureThreshold openTimeout clock).Sound where
  counts := ⟨_, _, newCircuitBreaker_counts failureThreshold openTimeout⟩
  trips _ member := absurd member List.not_mem_nil

theorem Sound.next (sound : s.Sound) {event : TrafficEvent} (possible : s.valid client event) :
    (s.next client event).Sound := by
  obtain ⟨failures, latest, counts⟩ := sound.counts
  have added : ∀ call ∈ s.calls ++ [⟨⟨client.retry.maxAttempts, none⟩, s.trips⟩], call.trip ≤ s.trips := by
    intro call member
    rcases List.mem_append.mp member with old | new
    · exact sound.trips call old
    · rw [List.mem_singleton.mp new]
  have moved := sound.step_cases possible
  generalize s.next client event = after at moved
  cases moved with
  | tick later => exact ⟨sound.counts, sound.trips⟩
  | refused error answer => exact sound
  | admittedClosed closed => exact ⟨sound.counts, added⟩
  | admittedProbe opened =>
    have probed := counts.beforeRequest (s.breaker.openedAt + s.breaker.cfg.openTimeout)
    refine ⟨⟨failures, latest, ?_⟩, added⟩
    rwa [CircuitBreaker.beforeRequest, opened, if_neg (by omega)] at probed
  | again index turn call found later moved =>
    exact ⟨sound.counts, forall_set sound.trips (sound.trips call (List.mem_of_getElem? found))⟩
  | left index turn call found report result returned =>
    refine ⟨counts_record counts s.clock report, fun other member => ?_⟩
    have before := sound.trips other (List.mem_of_mem_eraseIdx member)
    simp only [leave]
    split <;> omega

theorem record_leaves_halfOpen {b : CircuitBreaker} (half : b.state = .halfOpen) (now : Int) (verdict : Verdict) :
    (b.record now (some verdict)).state ≠ .halfOpen := by
  cases verdict with
  | success => exact fun same => by cases same
  | failure =>
    rw [CircuitBreaker.record, CircuitBreaker.recordFailure, if_pos half]
    exact fun same => by cases same

theorem record_ne_halfOpen {b : CircuitBreaker} (other : b.state ≠ .halfOpen) (now : Int) (report : Option Verdict) :
    (b.record now report).state ≠ .halfOpen := by
  rcases report with _ | (_ | _)
  · exact other
  · exact fun same => by cases same
  · rw [CircuitBreaker.record, CircuitBreaker.recordFailure, if_neg other]
    split
    · exact fun same => by cases same
    · exact other

section Wedge

/-- A round trip returns without a report only when the breaker is not half-open or another round trip is in progress. -/
def ProbeReports (client : Client) (s : Traffic) : TrafficEvent → Prop
  | .proceed index turn => ∀ call result, s.calls[index]? = some call → call.advance client turn = .returned none result →
      s.breaker.state = .halfOpen → 1 < s.calls.length
  | _ => True

/-- With nothing in progress no probe is in flight, and once the timeout has passed the next request is admitted. -/
def Unwedged (s : Traffic) : Prop :=
  s.calls = [] → s.breaker.probeInFlight = false ∧
    ∀ now, s.breaker.cfg.openTimeout ≤ now - s.breaker.openedAt → (s.breaker.beforeRequest now).1 = none

structure Attended (s : Traffic) : Prop extends Sound s where
  awaited : s.breaker.state = .halfOpen → s.calls ≠ []

theorem Attended.next (attended : s.Attended) {event : TrafficEvent} (possible : s.valid client event)
    (reports : s.ProbeReports client event) : (s.next client event).Attended := by
  refine ⟨attended.toSound.next possible, ?_⟩
  have moved := attended.toSound.step_cases possible
  generalize s.next client event = after at moved
  cases moved with
  | tick later => exact attended.awaited
  | refused error answer => exact attended.awaited
  | admittedClosed closed => exact fun _ => List.append_ne_nil_of_right_ne_nil _ (List.cons_ne_nil _ _)
  | admittedProbe opened => exact fun _ => List.append_ne_nil_of_right_ne_nil _ (List.cons_ne_nil _ _)
  | again index turn call found later moved =>
    intro half idle
    rw [← List.length_eq_zero_iff, List.length_set, List.length_eq_zero_iff] at idle
    exact attended.awaited half idle
  | left index turn call found report result returned =>
    intro half idle
    have before : s.breaker.state = .halfOpen := by
      by_contra other
      exact record_ne_halfOpen other s.clock report half
    cases report with
    | some verdict => exact record_leaves_halfOpen before s.clock verdict half
    | none =>
      have others := reports call result found returned before
      obtain ⟨bound, -⟩ := List.getElem?_eq_some_iff.mp found
      rw [leave_calls, ← List.length_eq_zero_iff, List.length_eraseIdx_of_lt bound] at idle
      omega

theorem Attended.unwedged (attended : s.Attended) : s.Unwedged := by
  intro idle
  have whole : s.breaker.state ≠ .halfOpen := fun half => attended.awaited half idle
  refine ⟨Bool.eq_false_iff.mpr fun flag => whole (attended.probing.mp flag), fun now late => ?_⟩
  rcases s.breaker.beforeRequest_cases now with ⟨-, answer⟩ | ⟨-, early, -⟩ | ⟨-, -, answer⟩ | ⟨half, -⟩ | ⟨half, -⟩
  · rw [answer]
  · omega
  · rw [answer]
  · exact absurd half whole
  · exact absurd half whole

structure Wedged (s : Traffic) : Prop where
  idle : s.calls = []
  half : s.breaker.state = .halfOpen
  flag : s.breaker.probeInFlight = true

theorem Wedged.refuses (wedged : s.Wedged) (now : Int) : s.breaker.beforeRequest now = (some circuitOpenError, s.breaker) := by
  rw [CircuitBreaker.beforeRequest, wedged.half]
  exact if_pos wedged.flag

theorem Wedged.next (wedged : s.Wedged) {event : TrafficEvent} (possible : s.valid client event) :
    (s.next client event).Wedged := by
  cases event with
  | tick later => exact ⟨wedged.idle, wedged.half, wedged.flag⟩
  | call =>
    rw [Traffic.next, enter, wedged.refuses]
    exact wedged
  | proceed index turn =>
    obtain ⟨call, found, -⟩ := possible
    rw [wedged.idle] at found
    cases found

theorem wedged_of_silent (sound : s.Sound) {event : TrafficEvent} (possible : s.valid client event)
    (silent : ¬s.ProbeReports client event) : (s.next client event).Wedged := by
  cases event with
  | tick later => exact absurd trivial silent
  | call => exact absurd trivial silent
  | proceed index turn =>
    simp only [ProbeReports, not_forall] at silent
    obtain ⟨call, result, found, returned, half, alone⟩ := silent
    have flag := sound.probing.mpr half
    obtain ⟨bound, -⟩ := List.getElem?_eq_some_iff.mp found
    have gone : s.calls.eraseIdx index = [] := by
      rw [← List.length_eq_zero_iff, List.length_eraseIdx_of_lt bound]
      omega
    rw [Traffic.next, proceed, found]
    simp only [returned]
    exact ⟨gone, half, flag⟩

/-- As long as no half-open breaker loses its last round trip without a report, it is never wedged; and a step that
loses it wedges the breaker for ever. -/
theorem breaker_unwedged (client : Client) (failureThreshold openTimeout clock : Int) :
    (∀ s, (traffic client).Reach (ProbeReports client) (start failureThreshold openTimeout clock) s → s.Unwedged) ∧
    ∀ s event, (traffic client).Reach (ProbeReports client) (start failureThreshold openTimeout clock) s →
      s.valid client event → ¬s.ProbeReports client event →
      ∀ later, (traffic client).Reach (fun _ _ => True) (s.next client event) later →
        later.calls = [] ∧ later.breaker.probeInFlight = true ∧
          ∀ now, (later.breaker.beforeRequest now).1 = some circuitOpenError := by
  have attended : ∀ s, (traffic client).Reach (ProbeReports client) (start failureThreshold openTimeout clock) s →
      s.Attended := by
    intro s run
    apply run.invariant Attended
    · exact ⟨Sound.start failureThreshold openTimeout clock, fun half => by cases half⟩
    · exact fun state action kept possible allowed => kept.next possible allowed
  refine ⟨fun s run => (attended s run).unwedged, fun s event run possible silent later after => ?_⟩
  have wedged : later.Wedged := by
    apply after.invariant Wedged (wedged_of_silent (attended s run).toSound possible silent)
    exact fun state action stuck valid _ => stuck.next valid
  exact ⟨wedged.idle, wedged.flag, fun now => by rw [wedged.refuses]⟩

end Wedge

section Probe

/-- How many requests in progress were admitted since the breaker last left the closed state. -/
def sinceTrip (s : Traffic) : Nat := s.calls.countP fun call => call.trip = s.trips

/-- A verdict that meets a half-open breaker is that of a request admitted since the trip. -/
def OwnVerdict (client : Client) (s : Traffic) : TrafficEvent → Prop
  | .proceed index turn => ∀ call verdict result, s.calls[index]? = some call →
      call.advance client turn = .returned (some verdict) result → s.breaker.state = .halfOpen → call.trip = s.trips
  | _ => True

/-- An open breaker has no request of its trip in progress, a half-open one at most the probe. -/
structure SingleProbe (s : Traffic) : Prop extends Sound s where
  opened : s.breaker.state = .opened → s.sinceTrip = 0
  halfOpen : s.breaker.state = .halfOpen → s.sinceTrip ≤ 1

theorem sinceTrip_again {index : Nat} {call : InFlight} (found : s.calls[index]? = some call) (later : Attempts) :
    { s with calls := s.calls.set index { call with toAttempts := later } }.sinceTrip = s.sinceTrip := by
  obtain ⟨before, after, whole, -, moved⟩ := split_at found
  rw [sinceTrip, sinceTrip, moved, whole, List.countP_append, List.countP_append, List.countP_cons, List.countP_cons]

theorem leave_trips_of_not_closed (open_ : s.breaker.state ≠ .closed) (index : Nat) (report : Option Verdict) :
    (s.leave index report).trips = s.trips := if_neg fun closed => open_ closed.1

theorem sinceTrip_leave (open_ : s.breaker.state ≠ .closed) {index : Nat} {call : InFlight}
    (found : s.calls[index]? = some call) (report : Option Verdict) :
    (s.leave index report).sinceTrip + (if call.trip = s.trips then 1 else 0) = s.sinceTrip := by
  obtain ⟨before, after, whole, gone, -⟩ := split_at found
  rw [sinceTrip, sinceTrip, leave_trips_of_not_closed open_, leave_calls, gone, whole, List.countP_append,
    List.countP_append, List.countP_cons]
  simp only [decide_eq_true_eq]
  omega

theorem sinceTrip_trip (sound : s.Sound) (closed : s.breaker.state = .closed) {index : Nat} {report : Option Verdict}
    (opened : (s.leave index report).breaker.state ≠ .closed) : (s.leave index report).sinceTrip = 0 := by
  have trips : (s.leave index report).trips = s.trips + 1 := if_pos ⟨closed, opened⟩
  rw [sinceTrip, List.countP_eq_zero]
  intro call member same
  have before := sound.trips call (List.mem_of_mem_eraseIdx member)
  rw [decide_eq_true_eq, trips] at same
  omega

theorem SingleProbe.next (single : s.SingleProbe) {event : TrafficEvent} (possible : s.valid client event)
    (own : s.OwnVerdict client event) : (s.next client event).SingleProbe := by
  have sound := single.toSound.next possible
  have moved := single.toSound.step_cases possible
  generalize s.next client event = after at moved sound
  cases moved with
  | tick later => exact ⟨sound, single.opened, single.halfOpen⟩
  | refused error answer => exact single
  | admittedClosed closed =>
    exact ⟨sound, fun opened => (by simp [closed] at opened), fun half => by simp [closed] at half⟩
  | admittedProbe opened =>
    refine ⟨sound, fun other => (by cases other), fun _ => ?_⟩
    have before := single.opened opened
    rw [sinceTrip] at before
    rw [sinceTrip, List.countP_append, before, List.countP_singleton]
    split <;> omega
  | again index turn call found later moved =>
    have same := sinceTrip_again found later
    exact ⟨sound, fun opened => same.trans (single.opened opened), fun half => same.le.trans (single.halfOpen half)⟩
  | left index turn call found report result returned =>
    refine ⟨sound, fun opened => ?_, fun half => ?_⟩
    · cases state : s.breaker.state with
      | closed => exact sinceTrip_trip single.toSound state (by rw [opened]; exact fun same => by cases same)
      | opened =>
        have fewer := sinceTrip_leave (by simp [state]) found report
        have before := single.opened state
        omega
      | halfOpen =>
        have fewer := sinceTrip_leave (by simp [state]) found report
        have before := single.halfOpen state
        cases report with
        | none => exact absurd (state.symm.trans opened) (fun same => by cases same)
        | some verdict =>
          rw [if_pos (own call verdict result found returned state)] at fewer
          omega
    · have before : s.breaker.state = .halfOpen := by
        by_contra other
        exact record_ne_halfOpen other s.clock report half
      have fewer := sinceTrip_leave (by simp [before]) found report
      have most := single.halfOpen before
      omega

/-- As long as every verdict that meets a half-open breaker is the probe's own, there is at most one probe at a time and
only its verdict ends the half-open state; and any other verdict does end it. -/
theorem single_probe (client : Client) (failureThreshold openTimeout clock : Int) :
    (∀ s, (traffic client).Reach (OwnVerdict client) (start failureThreshold openTimeout clock) s →
      (s.breaker.state ≠ .closed → s.sinceTrip ≤ 1) ∧
      ∀ event, s.valid client event → s.OwnVerdict client event → s.breaker.state = .halfOpen →
        (s.next client event).breaker.state ≠ .halfOpen →
        ∃ index turn call verdict result, event = .proceed index turn ∧ s.calls[index]? = some call ∧
          call.trip = s.trips ∧ call.advance client turn = .returned (some verdict) result) ∧
    ∀ s event, (traffic client).Reach (fun _ _ => True) (start failureThreshold openTimeout clock) s →
      s.valid client event → ¬s.OwnVerdict client event →
      s.breaker.state = .halfOpen ∧ (s.next client event).breaker.state ≠ .halfOpen ∧
        ∃ index turn call, event = .proceed index turn ∧ s.calls[index]? = some call ∧ call.trip < s.trips := by
  refine ⟨fun s run => ?_, fun s event run possible late => ?_⟩
  · have single : s.SingleProbe := by
      apply run.invariant SingleProbe
      · exact ⟨Sound.start failureThreshold openTimeout clock, fun _ => rfl, fun half => by cases half⟩
      · exact fun state action kept possible allowed => kept.next possible allowed
    refine ⟨fun open_ => ?_, fun event possible own half ended => ?_⟩
    · cases state : s.breaker.state with
      | closed => exact absurd state open_
      | opened => exact (single.opened state).trans_le (Nat.zero_le 1)
      | halfOpen => exact single.halfOpen state
    · have moved := single.toSound.step_cases possible
      generalize s.next client event = after at moved ended
      cases moved with
      | tick later => exact absurd half ended
      | refused error answer => exact absurd half ended
      | admittedClosed closed => exact absurd half ended
      | admittedProbe opened => exact absurd rfl ended
      | again index turn call found later moved => exact absurd half ended
      | left index turn call found report result returned =>
        cases report with
        | none => exact absurd half ended
        | some verdict =>
          exact ⟨index, turn, call, verdict, result, rfl, found, own call verdict result found returned half, returned⟩
  · cases event with
    | tick later => exact absurd trivial late
    | call => exact absurd trivial late
    | proceed index turn =>
      simp only [OwnVerdict, not_forall] at late
      obtain ⟨call, verdict, result, found, returned, half, other⟩ := late
      have sound : s.Sound := by
        apply run.invariant Sound (Sound.start failureThreshold openTimeout clock)
        exact fun state action kept valid _ => kept.next valid
      have before := sound.trips call (List.mem_of_getElem? found)
      refine ⟨half, ?_, index, turn, call, rfl, found, by omega⟩
      rw [Traffic.next, proceed, found]
      simp only [returned]
      exact record_leaves_halfOpen half s.clock verdict

end Probe

end Traffic

section Cases

def singleAttempt : Client where
  retry := ⟨1, 0, 0, by decide⟩
  ltpa := none
  clientCertMode := false

def played (events : List TrafficEvent) : Traffic :=
  events.foldl (traffic singleAttempt).next (Traffic.start 1 10 0)

def fails (index : Nat) : List TrafficEvent :=
  [.proceed index (.sent (.failed "connection refused")), .proceed index (.sent (.failed "connection refused"))]

def probeThen (outcome : SendResult) : List TrafficEvent :=
  .call :: fails 0 ++ [.tick 10, .call, .proceed 0 (.sent outcome)]

theorem answered_probe_unwedged : (played (probeThen (.answered ⟨200, .ok ""⟩))).breaker.probeInFlight = false := by
  have follows : (traffic singleAttempt).Follows (Traffic.ProbeReports singleAttempt) (Traffic.start 1 10 0)
      (probeThen (.answered ⟨200, .ok ""⟩)) := by
    refine ⟨trivial, trivial, ⟨_, rfl, nofun⟩, ?_, ⟨_, rfl, nofun⟩, ?_, (by decide : (0 : Int) ≤ 10), trivial, trivial, trivial,
      ⟨_, rfl, nofun⟩, ?_, trivial⟩
    all_goals
      rintro call result ⟨⟩ silent
      cases silent
  exact ((Traffic.breaker_unwedged singleAttempt 1 10 0).1 _ (System.Reach.start.follow _ follows) rfl).1

/-- The context of a probe ends while mqweb is silent: no request is ever let through again. -/
theorem aborted_probe_wedges :
    (traffic singleAttempt).Reach (fun _ _ => True) (Traffic.start 1 10 0)
        (played (probeThen (.aborted "context deadline exceeded"))) ∧
      (played (probeThen (.aborted "context deadline exceeded"))).calls = [] ∧
      (played (probeThen (.aborted "context deadline exceeded"))).breaker.probeInFlight = true ∧
      ∀ now, ((played (probeThen (.aborted "context deadline exceeded"))).breaker.beforeRequest now).1 =
        some circuitOpenError := by
  have wedged : (played (probeThen (.aborted "context deadline exceeded"))).Wedged := ⟨rfl, rfl, rfl⟩
  refine ⟨System.Reach.start.follow _ ?_, wedged.idle, wedged.flag, fun now => by rw [wedged.refuses]⟩
  exact ⟨trivial, trivial, ⟨_, rfl, nofun⟩, trivial, ⟨_, rfl, nofun⟩, trivial, (by decide : (0 : Int) ≤ 10), trivial, trivial,
    trivial, ⟨_, rfl, nofun⟩, trivial, trivial⟩

def lateAndProbe : List TrafficEvent := .call :: .call :: fails 0 ++ [.tick 10, .call]

theorem probe_beside_late_request : (played lateAndProbe).sinceTrip ≤ 1 := by
  have follows : (traffic singleAttempt).Follows (Traffic.OwnVerdict singleAttempt) (Traffic.start 1 10 0) lateAndProbe := by
    refine ⟨trivial, trivial, trivial, trivial, ⟨_, rfl, nofun⟩, ?_, ⟨_, rfl, nofun⟩, ?_, (by decide : (0 : Int) ≤ 10), trivial,
      trivial, trivial, trivial⟩
    all_goals
      rintro call verdict result ⟨⟩ - half
      cases half
  exact ((Traffic.single_probe singleAttempt 1 10 0).1 _ (System.Reach.start.follow _ follows)).1 nofun

def lateFailure : List TrafficEvent := lateAndProbe ++ fails 0

def secondProbe : List TrafficEvent := lateFailure ++ [.tick 20, .call]

/-- The second request fails late and ends the half-open state; after another timeout two probes are on their way. -/
theorem late_failure_second_probe :
    (traffic singleAttempt).Reach (fun _ _ => True) (Traffic.start 1 10 0) (played secondProbe) ∧
      (played lateAndProbe).breaker.state = .halfOpen ∧ (played lateFailure).breaker.state = .opened ∧
      (played secondProbe).breaker.state = .halfOpen ∧ (played secondProbe).sinceTrip = 2 := by
  refine ⟨System.Reach.start.follow _ ?_, rfl, rfl, rfl, rfl⟩
  exact ⟨trivial, trivial, trivial, trivial, ⟨_, rfl, nofun⟩, trivial, ⟨_, rfl, nofun⟩, trivial, (by decide : (0 : Int) ≤ 10),
    trivial, trivial, trivial, ⟨_, rfl, nofun⟩, trivial, ⟨_, rfl, nofun⟩, trivial, (by decide : (10 : Int) ≤ 20), trivial, trivial,
    trivial, trivial⟩

end Cases

end MKurator.MqRest
