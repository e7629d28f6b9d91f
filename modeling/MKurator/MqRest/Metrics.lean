import MKurator.Lib.Deferred
import MKurator.MqRest.Operations

/-! The operations of a client with the counter of their results. Each one has a variable `err` that a deferred call reads
when the operation returns, so an error that is returned without going through it is counted as a success. -/

namespace MKurator.MqRest
open MKurator.Api MKurator.MqAdmin MKurator.Lib MKurator.Lib.Strings

def resultSuccess : String := "success"
def resultError : String := "error"

def mqOpPing : String := "ping"
def mqOpGetQueue : String := "get_queue"
def mqOpDefineQueue : String := "define_queue"
def mqOpDeleteQueue : String := "delete_queue"
def mqOpGetTopic : String := "get_topic"
def mqOpDefineTopic : String := "define_topic"
def mqOpDeleteTopic : String := "delete_topic"
def mqOpGetChannel : String := "get_channel"
def mqOpDefineChannel : String := "define_channel"
def mqOpDeleteChannel : String := "delete_channel"
def mqOpSetChannelAuth : String := "set_channel_auth"
def mqOpGetChannelAuth : String := "get_channel_auth"
def mqOpDeleteChannelAuth : String := "delete_channel_auth"
def mqOpSetAuthority : String := "set_authority"
def mqOpGetAuthority : String := "get_authority"
def mqOpDeleteAuthority : String := "delete_authority"
def mqOpRunMQSC : String := "run_mqsc"

def Operation.label : Operation → String
  | ping => mqOpPing
  | getQueue _ => mqOpGetQueue
  | defineQueue _ => mqOpDefineQueue
  | deleteQueue _ => mqOpDeleteQueue
  | getTopic _ => mqOpGetTopic
  | defineTopic _ => mqOpDefineTopic
  | deleteTopic _ => mqOpDeleteTopic
  | getChannel _ => mqOpGetChannel
  | defineChannel _ => mqOpDefineChannel
  | deleteChannel _ => mqOpDeleteChannel
  | setChannelAuth _ => mqOpSetChannelAuth
  | getChannelAuth _ => mqOpGetChannelAuth
  | deleteChannelAuth _ => mqOpDeleteChannelAuth
  | setAuthority _ => mqOpSetAuthority
  | getAuthority _ => mqOpGetAuthority
  | deleteAuthority _ => mqOpDeleteAuthority
  | runMQSC _ => mqOpRunMQSC

/-- The client's state, with `MQOperationsTotal` by operation and result. -/
structure Metered (σ : Type) where
  client : ProbeWire σ
  mqOperationsTotal : String → String → Nat

def resultLabel (err : Option MqError) : String := if err.isSome then resultError else resultSuccess

def recordMQOperation {σ : Type} (operation : String) (err : Option MqError) (s : Metered σ) : Metered σ :=
  { s with mqOperationsTotal := fun o r =>
      if o = operation ∧ r = resultLabel err then s.mqOperationsTotal o r + 1 else s.mqOperationsTotal o r }

namespace Metered

variable {σ α : Type}

def onClient (act : Fallible (ProbeWire σ) MqError α) : Fallible (Metered σ) MqError α :=
  Fallible.focus Metered.client (fun s client => { s with client }) act

def onWire (act : Fallible (Wire σ) MqError α) : Fallible (Metered σ) MqError α := onClient (ProbeWire.onWire act)

/-- `var err error`, and `RecordMQOperation(operation, err)` deferred. -/
def counted (operation : String) (body : Body (Metered σ) MqError α) : Fallible (Metered σ) MqError α :=
  Body.deferred (recordMQOperation operation) body

/-- A command, or the error of building it assigned to `err`. -/
def built (command : Except MqError String) : Body (Metered σ) MqError String :=
  match command with
  | .ok command => return command
  | .error e => Body.fail e

/-- The attributes of the first object; `err` is assigned anew for a missing one. -/
def attributesNamed [UnicodeTables] (name : String) (resp : MqscResponse) : Body (Metered σ) MqError StringMap := do
  match ← Body.assign (Fallible.ofExcept resp.firstObjectAttributes) with
  | .ok attrs => return attrs
  | .error e => if e.isNotFound then Body.fail (.notFound name) else throw e

section Operations

variable [UnicodeTables] (net : Network σ) (client : Client)

/-- `runCommandJSON`, and a return of its error. -/
def posted (request : MqscRequest) : Body (Metered σ) MqError MqscResponse :=
  Body.check (onWire ((postMQSC net client request).mapError PostFailure.error))

/-- The DELETE request; `err` is cleared for a missing object. -/
def removed (qualifier name : String) : Body (Metered σ) MqError Unit := do
  match ← Body.assign (onWire (execute net client (deleteRequest qualifier name))) with
  | .ok () => return ()
  | .error e => if e.isNotFound then Body.setErr none else throw e

/-- The error variable is that of the round trip; the statuses behind it return errors of their own. -/
def ping (get : List String → σ → SendResult × σ) : Fallible (Metered σ) MqError Unit :=
  counted mqOpPing do
    let res ← Body.check (onWire (roundTripWithReauth (net.pinging get) client pingRequest))
    Fallible.ofExcept (readPingResponse client res)

def getQueue (spec : MqAdmin.QueueSpec) : Fallible (Metered σ) MqError QueueState :=
  counted mqOpGetQueue do
    Body.check (Fallible.ofExcept (validateQueueType spec.type))
    let displayParams ← Body.check (onClient (Client.queueDisplayParametersForGet net client spec.type))
    let resp ← posted net client (queueDisplayRequest spec displayParams)
    let attrs ← attributesNamed spec.name resp
    return ⟨spec.name, normalizeQueueAttributes attrs spec.type⟩

def defineQueue (spec : MqAdmin.QueueSpec) : Fallible (Metered σ) MqError Unit :=
  counted mqOpDefineQueue do
    Body.check (Fallible.ofExcept (validateQueueType spec.type))
    let request := defineRequest (queueQualifier spec.type) spec.name (defineQueueParameters spec)
    Body.check (onWire (execute net client request))

def deleteQueue (spec : MqAdmin.QueueSpec) : Fallible (Metered σ) MqError Unit :=
  counted mqOpDeleteQueue do
    Body.check (Fallible.ofExcept (validateQueueType spec.type))
    removed net client (queueQualifier spec.type) spec.name

def getTopic (name : String) : Fallible (Metered σ) MqError TopicState :=
  counted mqOpGetTopic do
    let resp ← posted net client (topicDisplayRequest name)
    let attrs ← attributesNamed name resp
    return ⟨name, normalizeTopicAttributes attrs⟩

def defineTopic (spec : MqAdmin.TopicSpec) : Fallible (Metered σ) MqError Unit :=
  counted mqOpDefineTopic do
    let request := defineRequest qualifierTopic spec.name (defineTopicParameters spec)
    Body.check (onWire (execute net client request))

def deleteTopic (name : String) : Fallible (Metered σ) MqError Unit :=
  counted mqOpDeleteTopic (removed net client qualifierTopic name)

def getChannel (spec : MqAdmin.ChannelSpec) : Fallible (Metered σ) MqError ChannelState :=
  counted mqOpGetChannel do
    Body.check (Fallible.ofExcept (validateChannelType spec.type))
    let resp ← posted net client (channelDisplayRequest spec.name spec.type)
    let attrs ← attributesNamed spec.name resp
    return ⟨spec.name, attrs⟩

def defineChannel (spec : MqAdmin.ChannelSpec) : Fallible (Metered σ) MqError Unit :=
  counted mqOpDefineChannel do
    Body.check (Fallible.ofExcept (validateChannelType spec.type))
    let request := defineRequest qualifierChannel spec.name (defineChannelParameters spec)
    Body.check (onWire (execute net client request))

def deleteChannel (spec : MqAdmin.ChannelSpec) : Fallible (Metered σ) MqError Unit :=
  counted mqOpDeleteChannel (removed net client qualifierChannel spec.name)

def runMQSC (command : String) : Fallible (Metered σ) MqError Unit :=
  counted mqOpRunMQSC (Body.check (onWire (execute net client (.runCommand command))))

def runMQSCAllowNotFound (command : String) : Fallible (Metered σ) MqError Unit :=
  Fallible.forgive (fun e => e.isNotFound || isMQSCNotFound e) (runMQSC net client command)

def setChannelAuth (spec : ChannelAuthSpec) : Fallible (Metered σ) MqError Unit :=
  counted mqOpSetChannelAuth do
    let command ← built (buildSetChannelAuthMQSC spec mqscActionReplace)
    Body.check (runMQSC net client command)

def deleteChannelAuth (spec : ChannelAuthSpec) : Fallible (Metered σ) MqError Unit :=
  counted mqOpDeleteChannelAuth do
    let command ← built (buildSetChannelAuthMQSC spec mqscActionRemove)
    Body.check (runMQSCAllowNotFound net client command)

def setAuthority (spec : AuthoritySpec) : Fallible (Metered σ) MqError Unit :=
  counted mqOpSetAuthority do
    let command ← built (buildSetAuthorityMQSC spec false)
    Body.check (runMQSC net client command)

def deleteAuthority (spec : AuthoritySpec) : Fallible (Metered σ) MqError Unit :=
  counted mqOpDeleteAuthority do
    let command ← built (buildSetAuthorityMQSC spec true)
    Body.check (runMQSCAllowNotFound net client command)

def getChannelAuth (spec : ChannelAuthSpec) : Fallible (Metered σ) MqError ChannelAuthState :=
  counted mqOpGetChannelAuth do
    let command ← built (buildDisplayChannelAuthMQSC spec)
    let attrs ← Body.check (onWire (runDisplayMQSC net client command spec.channelName))
    return channelAuthStateFromAttributes spec attrs

/-- A record without grants is returned as missing, past `err`. -/
def getAuthority (spec : AuthoritySpec) : Fallible (Metered σ) MqError AuthorityState :=
  counted mqOpGetAuthority do
    let command ← built (buildDisplayAuthorityMQSC spec)
    let attrs ← Body.check (onWire (runDisplayMQSC net client command spec.profile))
    let state := authorityStateFromAttributes spec attrs
    if authorityRecordRemoved state.authorities then throw (.notFound spec.profile)
    return state

end Operations

section Counting

open Body

/-- The call adds one to the operation's own counter, under `error` exactly when it returns an error. -/
def CountsOnce (operation : String) (act : Fallible (Metered σ) MqError α) (s : Metered σ) : Prop :=
  ∀ result, (act.after s).mqOperationsTotal operation result =
    s.mqOperationsTotal operation result + if result = resultLabel (errorOf (act.outcome s)) then 1 else 0

def counter (operation : String) (s : Metered σ) : String → Nat := s.mqOperationsTotal operation

variable {operation other : String}

theorem resultLabel_eq_iff (first second : Option MqError) :
    resultLabel first = resultLabel second ↔ first.isSome = second.isSome := by
  have apart : resultSuccess ≠ resultError := by decide
  cases first with
  | none => cases second with
    | none => exact iff_of_true rfl rfl
    | some e => exact iff_of_false apart Bool.false_ne_true
  | some e => cases second with
    | none => exact iff_of_false apart.symm Bool.false_ne_true.symm
    | some e' => exact iff_of_true rfl rfl

theorem counter_recordMQOperation (err : Option MqError) (s : Metered σ) (result : String) :
    counter operation (recordMQOperation operation err s) result =
      counter operation s result + if result = resultLabel err then 1 else 0 := by
  simp only [counter, recordMQOperation, true_and]
  by_cases recorded : result = resultLabel err
  · rw [if_pos recorded, if_pos recorded]
  · rw [if_neg recorded, if_neg recorded, Nat.add_zero]

theorem counter_recordMQOperation_other (apart : other ≠ operation) (err : Option MqError) (s : Metered σ) :
    counter other (recordMQOperation operation err s) = counter other s := by
  funext result
  exact if_neg fun both => apart both.1

theorem keeps_onClient (act : Fallible (ProbeWire σ) MqError α) : Keeps (counter operation) (onClient act) := fun _ => rfl

theorem keeps_onWire (act : Fallible (Wire σ) MqError α) : Keeps (counter operation) (onWire act) := fun _ => rfl

theorem keeps_ofExcept (result : Except MqError α) :
    Keeps (counter operation) (Fallible.ofExcept result : Fallible (Metered σ) MqError α) := fun _ => rfl

theorem countsOnce_counted_iff {body : Body (Metered σ) MqError α} {s : Metered σ}
    (kept : counter operation (Fallible.after body ⟨s, none⟩).shared = counter operation s) :
    CountsOnce operation (counted operation body) s ↔
      (Fallible.after body ⟨s, none⟩).err.isSome = (errorOf (Fallible.outcome body ⟨s, none⟩)).isSome := by
  have added : ∀ result, ((counted operation body).after s).mqOperationsTotal operation result =
      counter operation s result + if result = resultLabel (Fallible.after body ⟨s, none⟩).err then 1 else 0 := by
    intro result
    rw [← kept]
    exact counter_recordMQOperation _ _ result
  rw [← resultLabel_eq_iff]
  constructor
  · intro once
    by_contra differs
    have own := (added _).symm.trans (once (resultLabel (Fallible.after body ⟨s, none⟩).err))
    rw [if_pos rfl, counted, outcome_deferred, if_neg differs] at own
    exact Nat.succ_ne_self _ own
  · intro same result
    rw [added, same]
    rfl

theorem countsOnce_of_honest {body : Body (Metered σ) MqError α} (honest : Honest (counter operation) body)
    (s : Metered σ) : CountsOnce operation (counted operation body) s := by
  obtain ⟨kept, told⟩ := honest s
  rw [countsOnce_counted_iff kept, told]

theorem countsOnce_discarding_iff (act : Fallible (Metered σ) MqError α) (s : Metered σ) :
    CountsOnce operation (discarding act) s ↔ CountsOnce operation act s := by
  unfold CountsOnce discarding
  rw [Fallible.outcome_bind, Fallible.after_bind]
  cases Fallible.outcome act s with
  | ok value => exact Iff.rfl
  | error e => exact Iff.rfl

theorem honest_built (command : Except MqError String) : Honest (counter operation) (built command : Body (Metered σ) _ _) := by
  cases command with
  | ok command => exact Honest.pure command
  | error e => exact Honest.fail e

section Parts

variable [UnicodeTables] (net : Network σ) (client : Client)

theorem honest_posted (request : MqscRequest) : Honest (counter operation) (posted net client request) :=
  Honest.check (keeps_onWire _)

theorem honest_attributesNamed (name : String) (resp : MqscResponse) :
    Honest (counter operation) (attributesNamed name resp : Body (Metered σ) _ _) := by
  refine Honest.assign (keeps_ofExcept _) ?_
  intro s result
  cases result with
  | ok attrs => exact ⟨rfl, rfl⟩
  | error e => cases missing : e.isNotFound <;> simp only [missing] <;> exact ⟨rfl, rfl⟩

theorem honest_removed (qualifier name : String) : Honest (counter operation) (removed net client qualifier name) := by
  refine Honest.assign (keeps_onWire _) ?_
  intro s result
  cases result with
  | ok value => exact ⟨rfl, rfl⟩
  | error e => cases missing : e.isNotFound <;> simp only [missing] <;> exact ⟨rfl, rfl⟩

theorem keeps_runMQSC (apart : operation ≠ mqOpRunMQSC) (command : String) :
    Keeps (counter operation) (runMQSC net client command) := by
  intro s
  rw [runMQSC, counted, after_deferred, counter_recordMQOperation_other apart, after_check]
  rfl

theorem keeps_runMQSCAllowNotFound (apart : operation ≠ mqOpRunMQSC) (command : String) :
    Keeps (counter operation) (runMQSCAllowNotFound net client command) :=
  keeps_runMQSC net client apart command

end Parts

end Counting

section Unassigned

open Body

theorem countsOnce_judged_iff {β : Type} {operation : String} {act : Fallible (Metered σ) MqError α}
    (keeps : Keeps (counter operation) act) (judge : α → Except MqError β) (s : Metered σ) :
    CountsOnce operation (counted operation do
      let value ← check act
      Fallible.ofExcept (judge value)) s ↔
        ¬∃ value, act.outcome s = .ok value ∧ (errorOf (judge value)).isSome = true := by
  have ended : Fallible.after (check act >>= fun value => Fallible.ofExcept (judge value)) ⟨s, none⟩ =
      ⟨act.after s, errorOf (act.outcome s)⟩ := by
    rw [Fallible.after_bind, after_check]
    cases Fallible.outcome (check act) ⟨s, none⟩ <;> rfl
  have kept := keeps s
  rw [countsOnce_counted_iff (by rw [ended, kept]), ended, Fallible.outcome_bind, outcome_check]
  cases act.outcome s with
  | error e =>
    refine iff_of_true rfl ?_
    intro ⟨value, done, _⟩
    cases done
  | ok value =>
    have single : (∃ v, Except.ok value = (Except.ok v : Except MqError α) ∧ (errorOf (judge v)).isSome = true) ↔
        (errorOf (judge value)).isSome = true := by
      constructor
      · intro ⟨v, same, judged⟩
        cases same
        exact judged
      · intro judged
        exact ⟨value, rfl, judged⟩
    rw [single, Bool.not_eq_true]
    exact eq_comm

variable (net : Network σ) (client : Client) (get : List String → σ → SendResult × σ)

def PingRefused (w : Wire σ) : Prop :=
  ∃ res, (roundTripWithReauth (net.pinging get) client pingRequest).outcome w = .ok res ∧ 400 ≤ res.status

theorem errorOf_readPingResponse (res : HttpResponse) :
    (errorOf (readPingResponse client res)).isSome = true ↔ 400 ≤ res.status := by
  unfold readPingResponse
  split
  next refused => exact iff_of_true rfl (by omega)
  split
  next unavailable => exact iff_of_true rfl (by omega)
  split
  next bad => exact iff_of_true rfl bad
  next fine => exact iff_of_false Bool.false_ne_true fine

theorem countsOnce_ping_iff (s : Metered σ) :
    CountsOnce mqOpPing (ping net client get) s ↔ ¬PingRefused net client get s.client.wire := by
  rw [ping, countsOnce_judged_iff (keeps_onWire _)]
  refine not_congr (exists_congr fun res => and_congr_right fun _ => ?_)
  exact errorOf_readPingResponse client res

variable [UnicodeTables]

def ShowsNoGrants (spec : AuthoritySpec) (w : Wire σ) : Prop :=
  ∃ command resp attrs, buildDisplayAuthorityMQSC spec = .ok command ∧
    Answered net client (.runCommand command) w resp ∧ resp.overallFailed = false ∧
      resp.firstObjectAttributes = .ok attrs ∧
        authorityRecordRemoved (authorityStateFromAttributes spec
          (if attrs.entries = [] then resp.displayTextAttributes else attrs)).authorities = true

def judgeAuthority (spec : AuthoritySpec) (attrs : StringMap) : Except MqError AuthorityState :=
  if authorityRecordRemoved (authorityStateFromAttributes spec attrs).authorities then .error (.notFound spec.profile)
  else .ok (authorityStateFromAttributes spec attrs)

theorem errorOf_judgeAuthority (spec : AuthoritySpec) (attrs : StringMap) :
    (errorOf (judgeAuthority spec attrs)).isSome = true ↔
      authorityRecordRemoved (authorityStateFromAttributes spec attrs).authorities = true := by
  unfold judgeAuthority
  split
  next gone => exact iff_of_true rfl gone
  next present => exact iff_of_false Bool.false_ne_true present

theorem getAuthority_of_built {spec : AuthoritySpec} {command : String}
    (formed : buildDisplayAuthorityMQSC spec = .ok command) :
    getAuthority net client spec = counted mqOpGetAuthority
      (check (onWire (runDisplayMQSC net client command spec.profile)) >>= fun attrs =>
        Fallible.ofExcept (judgeAuthority spec attrs)) := by
  have judged : ∀ attrs, (Fallible.ofExcept (judgeAuthority spec attrs) : Body (Metered σ) MqError AuthorityState) =
      if authorityRecordRemoved (authorityStateFromAttributes spec attrs).authorities then throw (.notFound spec.profile)
      else pure (authorityStateFromAttributes spec attrs) := by
    intro attrs
    unfold judgeAuthority
    split <;> rfl
  rw [getAuthority, formed]
  simp only [judged]
  rfl

theorem countsOnce_getAuthority_iff (spec : AuthoritySpec) (s : Metered σ) :
    CountsOnce mqOpGetAuthority (getAuthority net client spec) s ↔ ¬ShowsNoGrants net client spec s.client.wire := by
  cases formed : buildDisplayAuthorityMQSC spec with
  | error e =>
    rw [getAuthority, formed]
    refine iff_of_true (countsOnce_of_honest (Honest.fail_bind e _) s) ?_
    intro ⟨command, _, _, impossible, _⟩
    rw [formed] at impossible
    cases impossible
  | ok command =>
    rw [getAuthority_of_built net client formed, countsOnce_judged_iff (keeps_onWire _)]
    refine not_congr ?_
    constructor
    · intro ⟨attrs, shown, gone⟩
      obtain ⟨resp, first, answered, fine, decoded, rfl⟩ := runDisplayMQSC_ok_iff.mp shown
      exact ⟨command, resp, first, formed, answered, fine, decoded, (errorOf_judgeAuthority spec _).mp gone⟩
    · intro ⟨built, resp, first, same, answered, fine, decoded, gone⟩
      rw [formed] at same
      cases same
      exact ⟨_, runDisplayMQSC_ok_iff.mpr ⟨resp, first, answered, fine, decoded, rfl⟩,
        (errorOf_judgeAuthority spec _).mpr gone⟩

end Unassigned

section Views

open Body Fallible

abbrev SeenAs (body : Body (Metered σ) MqError α) (plain : Fallible (ProbeWire σ) MqError α) : Prop :=
  Simulates (fun f => f.shared.client) body plain

theorem simulates_counted (operation : String) {body : Body (Metered σ) MqError α}
    {plain : Fallible (ProbeWire σ) MqError α} (same : SeenAs body plain) :
    Simulates Metered.client (counted operation body) plain :=
  simulates_deferred (fun _ _ => rfl) same

theorem simulates_onClient (act : Fallible (ProbeWire σ) MqError α) : Simulates Metered.client (onClient act) act :=
  fun _ => ⟨rfl, rfl⟩

theorem simulates_discarding {act : Fallible (Metered σ) MqError α} {plain : Fallible (ProbeWire σ) MqError α}
    (same : Simulates Metered.client act plain) : Simulates Metered.client (discarding act) (discarding plain) :=
  .bind same fun _ => .pure ()

theorem seenAs_checkExcept (result : Except MqError α) :
    SeenAs (check (Fallible.ofExcept result) : Body (Metered σ) MqError α) (Fallible.ofExcept result) :=
  simulates_check (.ofExcept result)

theorem seenAs_checkWire (act : Fallible (Wire σ) MqError α) : SeenAs (check (onWire act)) (ProbeWire.onWire act) :=
  simulates_check (simulates_onClient _)

theorem seenAs_built (command : Except MqError String) :
    SeenAs (built command : Body (Metered σ) MqError String) (Fallible.ofExcept command) := by
  cases command with
  | ok command => exact .pure command
  | error e => exact simulates_fail e

variable [UnicodeTables] (net : Network σ) (client : Client)

theorem seenAs_attributesNamed (name : String) (resp : MqscResponse) :
    SeenAs (attributesNamed name resp : Body (Metered σ) MqError StringMap)
      (Fallible.ofExcept (namedAttributes name resp)) := by
  intro f
  rw [attributesNamed, outcome_assign_bind, after_assign_bind, outcome_ofExcept, after_ofExcept, outcome_ofExcept,
    after_ofExcept, namedAttributes]
  cases resp.firstObjectAttributes with
  | ok attrs => exact ⟨rfl, rfl⟩
  | error e => cases missing : e.isNotFound <;> simp only [missing, Except.mapError] <;> exact ⟨rfl, rfl⟩

theorem seenAs_removed (qualifier name : String) :
    SeenAs (removed net client qualifier name) (ProbeWire.onWire (deleteObject net client qualifier name)) := by
  intro f
  have plain : ∀ s, (ProbeWire.onWire (deleteObject net client qualifier name)).outcome s =
      (Fallible.forgive MqError.isNotFound (execute net client (deleteRequest qualifier name))).outcome s.wire :=
    fun _ => rfl
  have sent : ∀ s : Metered σ, (onWire (execute net client (deleteRequest qualifier name))).outcome s =
    (execute net client (deleteRequest qualifier name)).outcome s.client.wire := fun _ => rfl
  rw [removed, outcome_assign_bind, after_assign_bind, plain, outcome_forgive, sent]
  cases (execute net client (deleteRequest qualifier name)).outcome f.shared.client.wire with
  | ok value => exact ⟨rfl, rfl⟩
  | error e => cases missing : e.isNotFound <;> simp only [missing] <;> exact ⟨rfl, rfl⟩

theorem simulates_runMQSC (command : String) :
    Simulates Metered.client (runMQSC net client command) (ProbeWire.onWire (MqRest.runMQSC net client command)) :=
  simulates_counted _ (seenAs_checkWire _)

theorem simulates_runMQSCAllowNotFound (command : String) :
    Simulates Metered.client (runMQSCAllowNotFound net client command)
      (ProbeWire.onWire (MqRest.runMQSCAllowNotFound net client command)) :=
  .forgive _ (simulates_runMQSC net client command)

end Views

end Metered

section Operations

open Metered Body

variable [UnicodeTables] {σ : Type} (net : Network σ) (client : Client) (get : List String → σ → SendResult × σ)

/-- The operation as it stands in the source, for its error and its effects. -/
def Operation.perform : Operation → Fallible (Metered σ) MqError Unit
  | ping => Metered.ping net client get
  | getQueue spec => discarding (Metered.getQueue net client spec)
  | defineQueue spec => Metered.defineQueue net client spec
  | deleteQueue spec => Metered.deleteQueue net client spec
  | getTopic name => discarding (Metered.getTopic net client name)
  | defineTopic spec => Metered.defineTopic net client spec
  | deleteTopic name => Metered.deleteTopic net client name
  | getChannel spec => discarding (Metered.getChannel net client spec)
  | defineChannel spec => Metered.defineChannel net client spec
  | deleteChannel spec => Metered.deleteChannel net client spec
  | setChannelAuth spec => Metered.setChannelAuth net client spec
  | getChannelAuth spec => discarding (Metered.getChannelAuth net client spec)
  | deleteChannelAuth spec => Metered.deleteChannelAuth net client spec
  | setAuthority spec => Metered.setAuthority net client spec
  | getAuthority spec => discarding (Metered.getAuthority net client spec)
  | deleteAuthority spec => Metered.deleteAuthority net client spec
  | runMQSC command => Metered.runMQSC net client command

/-- The counters change nothing else: each operation returns what it would return without them, and leaves the client in
the same state. -/
theorem perform_simulates_plain (operation : Operation) :
    Fallible.Simulates Metered.client (operation.perform net client get) (operation.plain net client get) := by
  cases operation with
  | ping =>
    rw [Operation.plain, MqRest.ping, onWire_bind]
    exact simulates_counted _ (.bind (seenAs_checkWire _) fun _ => .ofExcept _)
  | getQueue spec =>
    refine simulates_discarding (simulates_counted _ ?_)
    exact .bind (seenAs_checkExcept _) fun _ => .bind (simulates_check (simulates_onClient _)) fun _ =>
      .bind (seenAs_checkWire _) fun _ => .bind (seenAs_attributesNamed _ _) fun _ => .pure _
  | defineQueue spec =>
    rw [Operation.plain, MqRest.defineQueue, onWire_bind]
    exact simulates_counted _ (.bind (seenAs_checkExcept _) fun _ => seenAs_checkWire _)
  | deleteQueue spec =>
    rw [Operation.plain, MqRest.deleteQueue, onWire_bind]
    exact simulates_counted _ (.bind (seenAs_checkExcept _) fun _ => seenAs_removed net client _ _)
  | getTopic name =>
    rw [Operation.plain, onWire_discarding, MqRest.getTopic, onWire_bind]
    refine simulates_discarding (simulates_counted _ (.bind (seenAs_checkWire _) fun _ => ?_))
    rw [onWire_bind]
    exact .bind (seenAs_attributesNamed _ _) fun _ => .pure _
  | defineTopic spec => exact simulates_counted _ (seenAs_checkWire _)
  | deleteTopic name => exact simulates_counted _ (seenAs_removed net client _ _)
  | getChannel spec =>
    rw [Operation.plain, onWire_discarding, MqRest.getChannel, onWire_bind]
    refine simulates_discarding (simulates_counted _ (.bind (seenAs_checkExcept _) fun _ => ?_))
    rw [onWire_bind]
    refine .bind (seenAs_checkWire _) fun _ => ?_
    rw [onWire_bind]
    exact .bind (seenAs_attributesNamed _ _) fun _ => .pure _
  | defineChannel spec =>
    rw [Operation.plain, MqRest.defineChannel, onWire_bind]
    exact simulates_counted _ (.bind (seenAs_checkExcept _) fun _ => seenAs_checkWire _)
  | deleteChannel spec => exact simulates_counted _ (seenAs_removed net client _ _)
  | setChannelAuth spec =>
    rw [Operation.plain, MqRest.setChannelAuth, onWire_bind]
    exact simulates_counted _ (.bind (seenAs_built _) fun _ => simulates_check (simulates_runMQSC net client _))
  | getChannelAuth spec =>
    rw [Operation.plain, onWire_discarding, MqRest.getChannelAuth, onWire_bind]
    refine simulates_discarding (simulates_counted _ (.bind (seenAs_built _) fun _ => ?_))
    rw [onWire_bind]
    exact .bind (seenAs_checkWire _) fun _ => .pure _
  | deleteChannelAuth spec =>
    rw [Operation.plain, MqRest.deleteChannelAuth, onWire_bind]
    exact simulates_counted _
      (.bind (seenAs_built _) fun _ => simulates_check (simulates_runMQSCAllowNotFound net client _))
  | setAuthority spec =>
    rw [Operation.plain, MqRest.setAuthority, onWire_bind]
    exact simulates_counted _ (.bind (seenAs_built _) fun _ => simulates_check (simulates_runMQSC net client _))
  | getAuthority spec =>
    rw [Operation.plain, onWire_discarding, MqRest.getAuthority, onWire_bind]
    refine simulates_discarding (simulates_counted _ (.bind (seenAs_built _) fun _ => ?_))
    rw [onWire_bind]
    refine .bind (seenAs_checkWire _) fun attrs => ?_
    cases gone : authorityRecordRemoved (authorityStateFromAttributes spec attrs).authorities <;>
      simp only [gone] <;> exact fun _ => ⟨rfl, rfl⟩
  | deleteAuthority spec =>
    rw [Operation.plain, MqRest.deleteAuthority, onWire_bind]
    exact simulates_counted _
      (.bind (seenAs_built _) fun _ => simulates_check (simulates_runMQSCAllowNotFound net client _))
  | runMQSC command => exact simulates_runMQSC net client command

/-- The operation will return an error that its variable never held. -/
def Operation.Unreported (w : Wire σ) : Operation → Prop
  | ping => PingRefused net client get w
  | getAuthority spec => ShowsNoGrants net client spec w
  | _ => False

def Operation.Assigns : Operation → Prop
  | ping | getAuthority _ => False
  | _ => True

theorem countsOnce_of_assigns (operation : Operation) (assigns : operation.Assigns) (s : Metered σ) :
    CountsOnce operation.label (operation.perform net client get) s := by
  cases operation with
  | ping => exact assigns.elim
  | getAuthority spec => exact assigns.elim
  | getQueue spec =>
    refine (countsOnce_discarding_iff _ s).mpr (countsOnce_of_honest ?_ s)
    exact .bind (.check (keeps_ofExcept _)) fun _ => .bind (.check (keeps_onClient _)) fun _ =>
      .bind (honest_posted net client _) fun _ => .bind (honest_attributesNamed _ _) fun _ => .pure _
  | getTopic name =>
    refine (countsOnce_discarding_iff _ s).mpr (countsOnce_of_honest ?_ s)
    exact .bind (honest_posted net client _) fun _ => .bind (honest_attributesNamed _ _) fun _ => .pure _
  | getChannel spec =>
    refine (countsOnce_discarding_iff _ s).mpr (countsOnce_of_honest ?_ s)
    exact .bind (.check (keeps_ofExcept _)) fun _ =>
      .bind (honest_posted net client _) fun _ => .bind (honest_attributesNamed _ _) fun _ => .pure _
  | getChannelAuth spec =>
    refine (countsOnce_discarding_iff _ s).mpr (countsOnce_of_honest ?_ s)
    exact .bind (honest_built _) fun _ => .bind (.check (keeps_onWire _)) fun _ => .pure _
  | defineQueue spec =>
    exact countsOnce_of_honest (.bind (.check (keeps_ofExcept _)) fun _ => .check (keeps_onWire _)) s
  | defineTopic spec => exact countsOnce_of_honest (.check (keeps_onWire _)) s
  | defineChannel spec =>
    exact countsOnce_of_honest (.bind (.check (keeps_ofExcept _)) fun _ => .check (keeps_onWire _)) s
  | deleteQueue spec =>
    exact countsOnce_of_honest (.bind (.check (keeps_ofExcept _)) fun _ => honest_removed net client _ _) s
  | deleteTopic name => exact countsOnce_of_honest (honest_removed net client _ _) s
  | deleteChannel spec => exact countsOnce_of_honest (honest_removed net client _ _) s
  | runMQSC command => exact countsOnce_of_honest (.check (keeps_onWire _)) s
  -- the four that go through RunMQSC, which counts for itself
  | setChannelAuth spec =>
    have apart : mqOpSetChannelAuth ≠ mqOpRunMQSC := by decide
    exact countsOnce_of_honest (.bind (honest_built _) fun _ => .check (keeps_runMQSC net client apart _)) s
  | setAuthority spec =>
    have apart : mqOpSetAuthority ≠ mqOpRunMQSC := by decide
    exact countsOnce_of_honest (.bind (honest_built _) fun _ => .check (keeps_runMQSC net client apart _)) s
  | deleteChannelAuth spec =>
    have apart : mqOpDeleteChannelAuth ≠ mqOpRunMQSC := by decide
    exact countsOnce_of_honest
      (.bind (honest_built _) fun _ => .check (keeps_runMQSCAllowNotFound net client apart _)) s
  | deleteAuthority spec =>
    have apart : mqOpDeleteAuthority ≠ mqOpRunMQSC := by decide
    exact countsOnce_of_honest
      (.bind (honest_built _) fun _ => .check (keeps_runMQSCAllowNotFound net client apart _)) s

/-- A call counts once for its operation, and as an error exactly when it returns one, unless it is a ping that mqweb
refuses or a look at an authority record without grants. -/
theorem operation_countsOnce_iff (operation : Operation) (s : Metered σ) :
    CountsOnce operation.label (operation.perform net client get) s ↔
      ¬operation.Unreported net client get s.client.wire := by
  have assigned := countsOnce_of_assigns net client get operation
  cases operation with
  | ping => exact countsOnce_ping_iff net client get s
  | getAuthority spec => exact (countsOnce_discarding_iff _ s).trans (countsOnce_getAuthority_iff net client spec s)
  | _ => exact iff_of_true (assigned trivial s) id

end Operations

def freshMetered : Metered Unit := ⟨⟨freshWire, ∅⟩, fun _ _ => 0⟩

def noGrants : MqscResponse where
  commandResponse := [⟨0, [], [], AList.singleton "authlist" (.text "NONE")⟩]
  overallCompletionCode := 0
  error := []

def unauthorizedGet (_ : List String) (s : Unit) : SendResult × Unit := (.answered ⟨401, .ok ""⟩, s)

def ordersReaders : AuthoritySpec := ⟨"ORDERS", some .queue, "", "readers", ["GET"]⟩

section Cases

attribute [local instance] asciiTables

/-- A ping that is not authorized, and a look at a record without grants, return errors and count as successes. -/
theorem unreported_errors :
    (Operation.ping.perform (answering noGrants) basicClient unauthorizedGet).outcome freshMetered =
        .error (.terminal .unauthorized "mqweb ping returned HTTP 401") ∧
      ((Operation.ping.perform (answering noGrants) basicClient unauthorizedGet).after freshMetered).mqOperationsTotal
        "ping" "success" = 1 ∧
      ((Operation.ping.perform (answering noGrants) basicClient unauthorizedGet).after freshMetered).mqOperationsTotal
        "ping" "error" = 0 ∧
      ((Operation.getAuthority ordersReaders).perform (answering noGrants) basicClient unauthorizedGet).outcome
        freshMetered = .error (.notFound "ORDERS") ∧
      (((Operation.getAuthority ordersReaders).perform (answering noGrants) basicClient unauthorizedGet).after
        freshMetered).mqOperationsTotal "get_authority" "success" = 1 ∧
      (((Operation.getAuthority ordersReaders).perform (answering noGrants) basicClient unauthorizedGet).after
        freshMetered).mqOperationsTotal "get_authority" "error" = 0 :=
  ⟨rfl, rfl, rfl, rfl, rfl, rfl⟩

end Cases

end MKurator.MqRest
