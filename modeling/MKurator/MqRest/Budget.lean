import MKurator.Lib.Spending
import MKurator.MqRest.Operations

/-! How much work an operation can make. Whatever mqweb answers, the attempts of a request, the pauses between them and the
logins of its session are bounded, and so is everything that is counted by them: requests, logins or time. -/

namespace MKurator.MqRest
open MKurator.MqAdmin MKurator.Lib MKurator.Lib.Strings MKurator.Lib.Fallible

structure Prices where
  attempt : Nat
  login : Nat
  pause : Nat

section Budgets

variable {σ : Type} (net : Network σ) (client : Client) (cost : σ → Nat) (prices : Prices)

structure Charges : Prop where
  send : ∀ request cookies s, cost (net.send request cookies s).2 ≤ cost s + prices.attempt
  login : ∀ config s, cost (net.login config s).2 ≤ cost s + prices.login
  sleep : ∀ d s, cost (net.sleepWithContext d s).2 ≤ cost s + prices.pause

/-- So many attempts, with a pause before each of them but the first. -/
def Prices.attempts (n : Nat) : Nat := prices.attempt + (n - 1) * (prices.pause + prices.attempt)

/-- One request, which a session may have to log in for twice and to send twice. -/
def Client.request : Nat :=
  match client.ltpa with
  | none => prices.attempts client.retry.maxAttempts
  | some _ => 2 * prices.login + 2 * prices.attempts client.retry.maxAttempts

variable {net client cost prices}

abbrev wireCost (cost : σ → Nat) (w : Wire σ) : Nat := cost w.net

theorem spends_recordFailure : Spends (wireCost cost) 0 (Wire.recordFailure net) := .step fun _ => Nat.le_refl _

theorem spends_recordSuccess : Spends (wireCost cost) 0 (Wire.recordSuccess : Fallible (Wire σ) MqError Unit) :=
  .step fun _ => Nat.le_refl _

theorem spends_beforeRequest : Spends (wireCost cost) 0 (Wire.beforeRequest net) := by
  refine .before_free (.step fun _ => Nat.le_refl _) fun refused => ?_
  cases refused with
  | none => exact .pure ()
  | some e => exact .throw e

theorem spends_sleepWithContext (charges : Charges net cost prices) (d : Int64) :
    Spends (wireCost cost) prices.pause (sleepWithContext net d) := by
  refine .before_free (.step fun w => charges.sleep d w.net) fun aborted => ?_
  cases aborted with
  | none => exact .pure ()
  | some cause => exact .throw _

theorem spends_settleAttempt {remaining n : Nat} {lastNetErr : Option String}
    {again : Option String → Fallible (Wire σ) MqError HttpResponse} (later : ∀ err, Spends (wireCost cost) n (again err))
    (result : SendResult) : Spends (wireCost cost) n (settleAttempt net client remaining lastNetErr again result) := by
  cases result with
  | unbuildable cause => exact (Spends.throw _).weaken (Nat.zero_le n)
  | aborted cause => exact (Spends.throw _).weaken (Nat.zero_le n)
  | failed cause =>
    rw [settleAttempt]
    split
    · exact .after_free spends_recordFailure fun _ => .weaken (.throw _) (Nat.zero_le n)
    · exact later _
  | answered response =>
    rw [settleAttempt]
    split
    · split
      · exact later _
      · exact .after_free spends_recordFailure fun _ => .weaken (.throw _) (Nat.zero_le n)
    · exact .after_free spends_recordSuccess fun _ => .weaken (.pure _) (Nat.zero_le n)

theorem spends_attempt (charges : Charges net cost prices) (request : MqscRequest) {remaining n : Nat}
    (lastNetErr : Option String) (later : ∀ err, Spends (wireCost cost) n (roundTripFrom net client request remaining err)) :
    Spends (wireCost cost) (prices.attempt + n) (do
      let result ← Fallible.step fun w =>
        let (result, later) := net.send request w.session.cookies w.net
        (result, { w with net := later })
      settleAttempt net client remaining lastNetErr (roundTripFrom net client request remaining) result) :=
  .bind (.step fun w => charges.send request w.session.cookies w.net) fun result => spends_settleAttempt later result

theorem spends_roundTripFrom (charges : Charges net cost prices) (request : MqscRequest) (remaining : Nat)
    (lastNetErr : Option String) :
    Spends (wireCost cost) (remaining * (prices.pause + prices.attempt))
      (roundTripFrom net client request remaining lastNetErr) := by
  induction remaining generalizing lastNetErr with
  | zero =>
    refine .after_free spends_recordFailure fun _ => ?_
    cases lastNetErr with
    | none => exact .weaken (.throw _) (Nat.zero_le _)
    | some cause => exact .weaken (.throw _) (Nat.zero_le _)
  | succ remaining ih =>
    have attempted := spends_attempt charges request lastNetErr ih
    rw [roundTripFrom, Nat.add_mul, Nat.one_mul, Nat.add_comm, Nat.add_assoc]
    split
    · exact .bind (spends_sleepWithContext charges _) fun _ => attempted
    · exact attempted.weaken (Nat.le_add_left _ _)

theorem spends_roundTrip (charges : Charges net cost prices) (request : MqscRequest) :
    Spends (wireCost cost) (prices.attempts client.retry.maxAttempts) (roundTrip net client request) := by
  refine .after_free spends_beforeRequest fun _ => ?_
  obtain ⟨n, all⟩ : ∃ n, client.retry.maxAttempts = n + 1 := Nat.exists_eq_add_one.mpr client.retry.maxAttempts_pos
  -- the first attempt finds no other before it
  rw [all, roundTripFrom, all, if_neg (by omega)]
  exact spends_attempt charges request none fun err => spends_roundTripFrom charges request n err

theorem spends_reauthenticate (charges : Charges net cost prices) (config : LTPAConfig) (seenToken : Nat) :
    Spends (wireCost cost) prices.login (reauthenticate net config seenToken) := by
  refine .after_free (.step fun _ => Nat.le_refl _) fun gen => ?_
  split
  · refine .before_free (.step fun w => charges.login config w.net) fun result => ?_
    exact .before_free (.ofExcept _) fun cookies => .step fun _ => Nat.le_refl _
  · exact .weaken (.pure ()) (Nat.zero_le _)

theorem spends_ensureLoggedIn (charges : Charges net cost prices) (config : LTPAConfig) :
    Spends (wireCost cost) prices.login (ensureLoggedIn net config) := by
  refine .after_free (.step fun _ => Nat.le_refl _) fun session => ?_
  split
  · exact .before_free (spends_reauthenticate charges config _) fun _ => .step fun _ => Nat.le_refl _
  · exact .weaken (.step fun _ => Nat.le_refl _) (Nat.zero_le _)

theorem spends_roundTripWithReauth (charges : Charges net cost prices) (request : MqscRequest) :
    Spends (wireCost cost) (client.request prices) (roundTripWithReauth net client request) := by
  have sent : Spends (wireCost cost) (prices.attempts client.retry.maxAttempts) (roundTrip net client request) :=
    spends_roundTrip charges request
  unfold roundTripWithReauth Client.request
  cases client.ltpa with
  | none => exact sent
  | some config =>
    have again : ∀ seenToken, Spends (wireCost cost) (prices.login + prices.attempts client.retry.maxAttempts) (do
        reauthenticate net config seenToken
        roundTrip net client request) := fun seenToken => .bind (spends_reauthenticate charges config seenToken) fun _ => sent
    have total : prices.login + (prices.attempts client.retry.maxAttempts +
        (prices.login + prices.attempts client.retry.maxAttempts)) =
          2 * prices.login + 2 * prices.attempts client.retry.maxAttempts := by omega
    refine .weaken (.bind (spends_ensureLoggedIn charges config) fun seenToken => .bind sent fun res => ?_) total.le
    split
    · exact .weaken (.pure _) (Nat.zero_le _)
    · split
      · exact .weaken (.pure _) (Nat.zero_le _)
      · split
        · exact .weaken (.pure _) (Nat.zero_le _)
        · exact again seenToken

end Budgets

section Operations

variable {σ : Type} {net : Network σ} {client : Client} {cost : σ → Nat} {prices : Prices}
  {get : List String → σ → SendResult × σ}

theorem Charges.pinging (charges : Charges net cost prices)
    (got : ∀ cookies s, cost (get cookies s).2 ≤ cost s + prices.attempt) : Charges (net.pinging get) cost prices :=
  ⟨fun _ cookies s => got cookies s, charges.login, charges.sleep⟩

theorem spends_discarding {τ α : Type} {cost : τ → Nat} {act : Fallible τ MqError α} {n : Nat} (spent : Spends cost n act) :
    Spends cost n (discarding act) :=
  .before_free spent fun _ => .pure _

abbrev clientCost (cost : σ → Nat) (s : ProbeWire σ) : Nat := wireCost cost s.wire

theorem spends_onWire {α : Type} {act : Fallible (Wire σ) MqError α} {n : Nat} (spent : Spends (wireCost cost) n act) :
    Spends (clientCost cost) n (ProbeWire.onWire act) := .focus (fun _ _ => rfl) spent

variable [UnicodeTables]

theorem spends_postMQSC (charges : Charges net cost prices) (request : MqscRequest) :
    Spends (wireCost cost) (client.request prices) (postMQSC net client request) :=
  .before_free (.mapError (spends_roundTripWithReauth charges request)) fun _ => .ofExcept _

theorem spends_execute (charges : Charges net cost prices) (request : MqscRequest) :
    Spends (wireCost cost) (client.request prices) (execute net client request) :=
  .before_free (.mapError (spends_postMQSC charges request)) fun _ => .pure _

theorem spends_deleteObject (charges : Charges net cost prices) (qualifier name : String) :
    Spends (wireCost cost) (client.request prices) (deleteObject net client qualifier name) :=
  .forgive (spends_execute charges _)

theorem spends_runDisplayMQSC (charges : Charges net cost prices) (command object : String) :
    Spends (wireCost cost) (client.request prices) (runDisplayMQSC net client command object) :=
  .before_free (.mapError (spends_postMQSC charges _)) fun _ =>
    .before_free (.mapError (.ofExcept _)) fun _ => .pure _

theorem spends_probe (charges : Charges net cost prices) (queueName attr : String) :
    Spends (wireCost cost) (client.request prices) (probeQueueLocalAttributeDisplayable net client queueName attr) := by
  unfold probeQueueLocalAttributeDisplayable
  simp only
  split
  · exact .weaken (.throw _) (Nat.zero_le _)
  · split
    · exact .weaken (.throw _) (Nat.zero_le _)
    · exact .settle (spends_postMQSC charges _)

theorem spends_probeCached (charges : Charges net cost prices) (attr : String) :
    Spends (clientCost cost) (client.request prices) (probeQueueLocalDisplayableCached net client attr) := by
  refine .after_free (.step fun _ => Nat.le_refl _) fun cached => ?_
  cases cached with
  | some displayable => exact .weaken (.pure _) (Nat.zero_le _)
  | none =>
    refine .before_free (spends_onWire (spends_probe charges _ attr)) fun displayable => ?_
    exact .before_free (.step fun _ => Nat.le_refl _) fun _ => .pure _

theorem spends_resolveCandidates (charges : Charges net cost prices) (candidates base : List String) :
    Spends (clientCost cost) (candidates.length * client.request prices) (resolveCandidates net client candidates base) := by
  induction candidates generalizing base with
  | nil => exact .weaken (.pure _) (Nat.zero_le _)
  | cons attr candidates ih =>
    rw [List.length_cons, Nat.add_mul, Nat.one_mul, Nat.add_comm]
    exact .bind (.mapError (spends_probeCached charges attr)) fun displayable => ih _

/-- The commands that an operation sends at most: those of a local queue include the probes. -/
def Operation.commands : Operation → Nat
  | .getQueue spec =>
    if normalizeQueueType spec.type ≠ .localQueue then 1 else queueLocalDefineOnlyCandidates.length + 1
  | _ => 1

theorem spends_getQueue (charges : Charges net cost prices) (spec : MqAdmin.QueueSpec) :
    Spends (clientCost cost) ((Operation.getQueue spec).commands * client.request prices) (getQueue net client spec) := by
  have displayed : ∀ displayParams : List String, Spends (clientCost cost) (client.request prices) (do
      let resp ← ProbeWire.onWire
        ((postMQSC net client (queueDisplayRequest spec displayParams)).mapError PostFailure.error)
      let attrs ← (Fallible.ofExcept resp.firstObjectAttributes).mapError fun e =>
        if e.isNotFound then .notFound spec.name else e
      return (⟨spec.name, normalizeQueueAttributes attrs spec.type⟩ : QueueState)) := fun displayParams =>
    .before_free (spends_onWire (.mapError (spends_postMQSC charges _))) fun _ =>
      .before_free (.mapError (.ofExcept _)) fun _ => .pure _
  refine .after_free (.ofExcept _) fun _ => ?_
  simp only [Client.queueDisplayParametersForGet, Operation.commands]
  by_cases fixed : normalizeQueueType spec.type ≠ .localQueue
  · rw [if_pos fixed, if_pos fixed, Nat.one_mul]
    exact .after_free (.pure _) displayed
  · rw [if_neg fixed, if_neg fixed, Nat.add_mul, Nat.one_mul]
    exact .bind (spends_resolveCandidates charges _ _) displayed

/-- Whatever mqweb answers, an operation costs at most so many requests, each with its attempts, pauses and logins. -/
theorem operation_work_bounded (charges : Charges net cost prices)
    (got : ∀ cookies s, cost (get cookies s).2 ≤ cost s + prices.attempt) (op : Operation) (s : ProbeWire σ) :
    cost ((op.plain net client get).after s).wire.net ≤ cost s.wire.net + op.commands * client.request prices := by
  have single : ∀ act : Fallible (Wire σ) MqError Unit, op.commands = 1 → Spends (wireCost cost) (client.request prices) act →
      Spends (clientCost cost) (op.commands * client.request prices) (ProbeWire.onWire act) := by
    intro act one spent
    rw [one, Nat.one_mul]
    exact spends_onWire spent
  have bounded : Spends (clientCost cost) (op.commands * client.request prices) (op.plain net client get) := by
    cases op with
    | ping =>
      have answered : Spends (wireCost cost) (client.request prices)
          (roundTripWithReauth (net.pinging get) client pingRequest) :=
        spends_roundTripWithReauth (charges.pinging got) pingRequest
      exact single _ rfl (.before_free answered fun _ => .ofExcept _)
    | getQueue spec => exact spends_discarding (spends_getQueue charges spec)
    | defineQueue spec => exact single _ rfl (.after_free (.ofExcept _) fun _ => spends_execute charges _)
    | deleteQueue spec => exact single _ rfl (.after_free (.ofExcept _) fun _ => spends_deleteObject charges _ _)
    | getTopic name =>
      refine single _ rfl (spends_discarding (.before_free (.mapError (spends_postMQSC charges _)) fun resp => ?_))
      exact .before_free (.ofExcept _) fun _ => .pure _
    | defineTopic spec => exact single _ rfl (spends_execute charges _)
    | deleteTopic name => exact single _ rfl (spends_deleteObject charges _ _)
    | getChannel spec =>
      refine single _ rfl (spends_discarding (.after_free (.ofExcept _) fun _ => ?_))
      refine .before_free (.mapError (spends_postMQSC charges _)) fun resp => ?_
      exact .before_free (.ofExcept _) fun _ => .pure _
    | defineChannel spec => exact single _ rfl (.after_free (.ofExcept _) fun _ => spends_execute charges _)
    | deleteChannel spec => exact single _ rfl (spends_deleteObject charges _ _)
    | setChannelAuth spec => exact single _ rfl (.after_free (.ofExcept _) fun _ => spends_execute charges _)
    | getChannelAuth spec =>
      refine single _ rfl (spends_discarding (.after_free (.ofExcept _) fun command => ?_))
      exact .before_free (spends_runDisplayMQSC charges command _) fun _ => .pure _
    | deleteChannelAuth spec => exact single _ rfl (.after_free (.ofExcept _) fun _ => .forgive (spends_execute charges _))
    | setAuthority spec => exact single _ rfl (.after_free (.ofExcept _) fun _ => spends_execute charges _)
    | getAuthority spec =>
      refine single _ rfl (spends_discarding (.after_free (.ofExcept _) fun command => ?_))
      refine .before_free (spends_runDisplayMQSC charges command _) fun attrs => ?_
      simp only
      split
      · exact .after_free (.throw _) fun _ => .pure _
      · exact .pure _
    | deleteAuthority spec => exact single _ rfl (.after_free (.ofExcept _) fun _ => .forgive (spends_execute charges _))
    | runMQSC command => exact single _ rfl (spends_execute charges _)
  exact bounded s

end Operations

/-- A server that never answers, behind a network that counts the requests and waits in seconds. -/
def deadNetwork : Network Nat where
  now _ := 0
  sleepWithContext _ spent := (none, spent + 5)
  send _ _ spent := (.failed "connection refused", spent + 30)
  login _ spent := (.failed "connection refused", spent + 30)
  unmarshal _ := .error "no body"
  errorMsgIDs _ := []

section Cases

attribute [local instance] asciiTables

theorem operation_work_bounded_dead :
    let s : ProbeWire Nat := ⟨⟨newCircuitBreaker 5 30000000000, ⟨[], 0⟩, 0⟩, ∅⟩
    let getQueue : Operation := .getQueue ⟨"ORDERS", .localQueue, ∅⟩
    ((getQueue.plain deadNetwork basicClient fun _ spent => (.failed "connection refused", spent + 30)).after s).wire.net ≤
      7 * 135 := by
  have charges : Charges deadNetwork id ⟨30, 30, 5⟩ :=
    ⟨fun _ _ _ => Nat.le_refl _, fun _ _ => Nat.le_refl _, fun _ _ => Nat.le_refl _⟩
  exact operation_work_bounded charges (fun _ _ => Nat.le_refl _)
    (.getQueue ⟨"ORDERS", .localQueue, ∅⟩) ⟨⟨newCircuitBreaker 5 30000000000, ⟨[], 0⟩, 0⟩, ∅⟩

end Cases

end MKurator.MqRest
