import MKurator.MqRest.Operations

/-! The queues, topics and channels of a queue manager behind mqweb, and the operations of its clients as commands on
them: whatever is retried, refused or lost on the way, a command touches its own object only, and one that reports
success has been carried out. -/

namespace MKurator.MqRest
open MKurator.Api MKurator.MqAdmin MKurator.Lib MKurator.Lib.Strings MKurator.Lib.Fallible

abbrev ObjectKey := String × String

abbrev Objects := ObjectKey → Option ParamMap

/-- DEFINE with REPLACE sets what it is sent; the queue manager chooses the rest. -/
def Sets (params contents : ParamMap) : Prop :=
  ∀ name value, name ≠ attrReplace → params.lookup name = some value → contents.lookup name = some value

inductive Command where
  | define (key : ObjectKey) (params : ParamMap)
  | delete (key : ObjectKey)
  | display (key : ObjectKey)

namespace Command

def key : Command → ObjectKey
  | .define key _ | .delete key | .display key => key

def isWrite : Command → Bool
  | .define .. | .delete _ => true
  | .display _ => false

def Leaves : Command → Option ParamMap → Option ParamMap → Prop
  | .define _ params, _, after => ∃ contents, after = some contents ∧ Sets params contents
  | .delete _, _, after => after = none
  | .display _, before, after => after = before

/-- The command has been carried out, and nothing else. -/
structure Done (command : Command) (before after : Objects) : Prop where
  leaves : command.Leaves (before command.key) (after command.key)
  others : ∀ other, other ≠ command.key → after other = before other

theorem Done.again {command : Command} {first second third : Objects} (once : command.Done first second)
    (twice : command.Done second third) : command.Done first third := by
  refine ⟨?_, fun other apart => (twice.others other apart).trans (once.others other apart)⟩
  cases command with
  | define key params => exact twice.leaves
  | delete key => exact twice.leaves
  | display key => exact Eq.trans twice.leaves once.leaves

/-- The command of a request body; a plain command line is none of these. -/
def ofRequest : MqscRequest → Option Command
  | .runCommand _ => none
  | .runCommandJSON verb qualifier name _ params =>
    if verb = mqscCommandDefine then some (.define (qualifier, name) params)
    else if verb = mqscCommandDelete then some (.delete (qualifier, name))
    else if verb = mqscCommandDisplay then some (.display (qualifier, name))
    else none

/-- The answer means that the command was carried out; that there is nothing to delete is as good. -/
def confirmedBy [UnicodeTables] : Command → MqscResponse → Bool
  | .delete _, resp => !resp.overallFailed || resp.isObjectMissing
  | _, resp => !resp.overallFailed

end Command

section Serving

variable {σ : Type}

def Decodes (net : Network σ) (res : HttpResponse) (resp : MqscResponse) : Prop :=
  ∃ raw, res.body = .ok raw ∧ res.status < 400 ∧ net.unmarshal raw = .ok resp

variable [UnicodeTables]

/-- A network in front of a queue manager whose objects nobody else changes meanwhile. An attempt without an answer may
have been carried out or not. -/
structure ServesObjects (net : Network σ) (objects : σ → Objects) : Prop where
  sleep : ∀ d s, objects (net.sleepWithContext d s).2 = objects s
  login : ∀ config s, objects (net.login config s).2 = objects s
  send : ∀ request command, Command.ofRequest request = some command → ∀ cookies s,
    let sent := net.send request cookies s
    command.Done (objects s) (objects sent.2) ∨ (objects sent.2 = objects s ∧
      ∀ res resp, sent.1 = .answered res → Decodes net res resp → command.confirmedBy resp = false)

variable {net : Network σ} {objects : σ → Objects} (client : Client)

theorem ServesObjects.carries (serves : ServesObjects net objects) {request : MqscRequest} {command : Command}
    (known : Command.ofRequest request = some command) (before : Objects) :
    Carries net request (fun s => objects s = before ∨ command.Done before (objects s))
      (fun res s => ∀ resp, Decodes net res resp → command.confirmedBy resp = true → command.Done before (objects s)) where
  sleep d s here := by rwa [serves.sleep]
  login config s here := by rwa [serves.login]
  send cookies s here := by
    rcases serves.send request command known cookies s with done | ⟨unsent, refused⟩
    · have carried : command.Done before (objects (net.send request cookies s).2) := by
        rcases here with same | earlier
        · rwa [same] at done
        · exact earlier.again done
      exact ⟨.inr carried, fun _ _ _ _ _ => carried⟩
    · rw [← unsent] at here
      refine ⟨here, fun res answered resp decodes confirmed => ?_⟩
      rw [refused res resp answered decodes] at confirmed
      cases confirmed
  unauthorized res s status resp decodes := by
    obtain ⟨raw, body, low, decoded⟩ := decodes
    omega

theorem ServesObjects.delivers (serves : ServesObjects net objects) {request : MqscRequest} {command : Command}
    (known : Command.ofRequest request = some command) (w : Wire σ) :
    let after := objects ((roundTripWithReauth net client request).after w).net
    (after = objects w.net ∨ command.Done (objects w.net) after) ∧
      ∀ resp, Answered net client request w resp → command.confirmedBy resp = true →
        command.Done (objects w.net) after := by
  obtain ⟨either, answer⟩ := roundTripWithReauth_delivers client (serves.carries known (objects w.net)) w (.inl rfl)
  refine ⟨either, fun resp answered confirmed => ?_⟩
  obtain ⟨res, raw, arrived, body, low, decoded⟩ := answered
  exact answer res arrived resp ⟨raw, body, low, decoded⟩ confirmed

theorem after_postMQSC {request : MqscRequest} {w : Wire σ} :
    (postMQSC net client request).after w = (roundTripWithReauth net client request).after w := by
  rw [postMQSC, after_bind, outcome_mapError]
  cases (roundTripWithReauth net client request).outcome w <;> rfl

end Serving

section Refinement

variable {σ : Type} {objects : σ → Objects} {α : Type}

/-- The action carries the command out or leaves the objects as they are; if it returns, it has carried it out. -/
def Refines (objects : σ → Objects) (command : Command) (act : Fallible (Wire σ) MqError α) : Prop :=
  ∀ w, (objects (act.after w).net = objects w.net ∨ command.Done (objects w.net) (objects (act.after w).net)) ∧
    ∀ value, act.outcome w = .ok value → command.Done (objects w.net) (objects (act.after w).net)

theorem Refines.checked {command : Command} {act : Fallible (Wire σ) MqError α} (refines : Refines objects command act)
    (check : Except MqError Unit) : Refines objects command (do Fallible.ofExcept check; act) := by
  intro w
  cases check with
  | error e => exact ⟨.inl rfl, fun _ done => by cases done⟩
  | ok _ => exact refines w

theorem done_display_iff {key : ObjectKey} {before after : Objects} :
    (Command.display key).Done before after ↔ after = before := by
  refine ⟨fun done => funext fun other => ?_, fun same => ⟨congrFun same key, fun other _ => congrFun same other⟩⟩
  by_cases here : other = key
  · exact here ▸ done.leaves
  · exact done.others other here

/-- What the clients of one queue manager share of their state. -/
def shared (objects : σ → Objects) (s : ProbeWire σ) : Objects := objects s.wire.net

theorem keeps_onWire {act : Fallible (Wire σ) MqError α} (kept : Keeps (fun w : Wire σ => objects w.net) act) :
    Keeps (shared objects) (ProbeWire.onWire act) := fun s => kept s.wire

variable [UnicodeTables] {net : Network σ} (client : Client) (serves : ServesObjects net objects)

include serves

theorem Refines.execute {request : MqscRequest} {command : Command} (known : Command.ofRequest request = some command) :
    Refines objects command (execute net client request) := by
  intro w
  obtain ⟨either, confirmed⟩ := serves.delivers client known w
  rw [after_execute]
  refine ⟨either, fun value done => ?_⟩
  obtain ⟨resp, answered, success⟩ := execute_ok done
  exact confirmed resp answered (by cases command <;> simp [Command.confirmedBy, success])

theorem Refines.deleteObject (qualifier name : String) :
    Refines objects (.delete (qualifier, name)) (deleteObject net client qualifier name) := by
  intro w
  have known : Command.ofRequest (deleteRequest qualifier name) = some (.delete (qualifier, name)) := rfl
  have executed := Refines.execute client serves known w
  refine ⟨executed.1, fun value done => ?_⟩
  rcases (outcome_forgive_ok_iff _ _ w).mp done with success | ⟨e, stopped, missing⟩
  · exact executed.2 () success
  · obtain ⟨resp, answered, why⟩ := (execute_error stopped).confirmedGone missing
    have confirmed : (Command.delete (qualifier, name)).confirmedBy resp = true := by
      rw [← isObjectMissing_iff] at why
      rcases why with success | gone
      · simp [Command.confirmedBy, success]
      · simp [Command.confirmedBy, gone]
    have done := (serves.delivers client known w).2 resp answered confirmed
    rwa [← after_execute] at done

theorem keeps_postMQSC {request : MqscRequest} {key : ObjectKey}
    (known : Command.ofRequest request = some (.display key)) :
    Keeps (fun w : Wire σ => objects w.net) (postMQSC net client request) := by
  intro w
  rw [after_postMQSC]
  rcases (serves.delivers client known w).1 with same | done
  · exact same
  · exact done_display_iff.mp done

theorem keeps_probe (attr : String) : Keeps (fun w : Wire σ => objects w.net)
    (probeQueueLocalAttributeDisplayable net client defaultQueueLocalDisplayProbeObject attr) := by
  simp only [probeQueueLocalAttributeDisplayable]
  split
  · exact .throw _
  · split
    · exact .throw _
    · exact .settle (keeps_postMQSC client serves rfl)

theorem keeps_probeCached (attr : String) :
    Keeps (shared objects) (probeQueueLocalDisplayableCached net client attr) := by
  refine .bind (.step fun _ => rfl) fun found => ?_
  cases found with
  | some displayable => exact .pure displayable
  | none =>
    refine .bind (keeps_onWire (keeps_probe client serves attr)) fun displayable => ?_
    exact .bind (.step fun _ => rfl) fun _ => .pure _

theorem keeps_resolveCandidates (candidates base : List String) :
    Keeps (shared objects) (resolveCandidates net client candidates base) := by
  induction candidates generalizing base with
  | nil => exact .pure base
  | cons attr candidates ih =>
    rw [resolveCandidates]
    exact .bind (.mapError (keeps_probeCached client serves attr)) fun displayable => ih _

theorem keeps_displayParameters (type : QueueType) :
    Keeps (shared objects) (Client.queueDisplayParametersForGet net client type) := by
  unfold Client.queueDisplayParametersForGet
  split
  · exact .pure _
  · exact keeps_resolveCandidates client serves _ _

theorem keeps_getQueue (spec : MqAdmin.QueueSpec) : Keeps (shared objects) (getQueue net client spec) := by
  refine .bind (.ofExcept _) fun _ => .bind (keeps_displayParameters client serves _) fun names => ?_
  refine .bind (keeps_onWire (.mapError (keeps_postMQSC client serves rfl))) fun resp => ?_
  exact .bind (.mapError (.ofExcept _)) fun attrs => .pure _

end Refinement

section Clients

variable [UnicodeTables]

/-- The command behind an operation on queues, topics and channels. -/
def Operation.command : Operation → Option Command
  | getQueue spec => some (.display (queueQualifier spec.type, spec.name))
  | defineQueue spec => some (.define (queueQualifier spec.type, spec.name) (defineQueueParameters spec))
  | deleteQueue spec => some (.delete (queueQualifier spec.type, spec.name))
  | getTopic name => some (.display (qualifierTopic, name))
  | defineTopic spec => some (.define (qualifierTopic, spec.name) (defineTopicParameters spec))
  | deleteTopic name => some (.delete (qualifierTopic, name))
  | getChannel spec => some (.display (qualifierChannel, spec.name))
  | defineChannel spec => some (.define (qualifierChannel, spec.name) (defineChannelParameters spec))
  | deleteChannel spec => some (.delete (qualifierChannel, spec.name))
  | _ => none

variable {σ : Type} {net : Network σ} {objects : σ → Objects} (client : Client) (get : List String → σ → SendResult × σ)

theorem Operation.refines (serves : ServesObjects net objects) {op : Operation} {command : Command}
    (known : op.command = some command) (s : ProbeWire σ) :
    (shared objects ((op.plain net client get).after s) = shared objects s ∨
        command.Done (shared objects s) (shared objects ((op.plain net client get).after s))) ∧
      ((op.plain net client get).outcome s = .ok () →
        command.Done (shared objects s) (shared objects ((op.plain net client get).after s))) := by
  have written : ∀ act : Fallible (Wire σ) MqError Unit, Refines objects command act →
      (shared objects ((ProbeWire.onWire act).after s) = shared objects s ∨
          command.Done (shared objects s) (shared objects ((ProbeWire.onWire act).after s))) ∧
        ((ProbeWire.onWire act).outcome s = .ok () →
          command.Done (shared objects s) (shared objects ((ProbeWire.onWire act).after s))) :=
    fun act refines => ⟨(refines s.wire).1, (refines s.wire).2 ()⟩
  have read : ∀ (key : ObjectKey) (act : Fallible (ProbeWire σ) MqError Unit), command = .display key →
      Keeps (shared objects) act → (shared objects (act.after s) = shared objects s ∨
          command.Done (shared objects s) (shared objects (act.after s))) ∧
        (act.outcome s = .ok () → command.Done (shared objects s) (shared objects (act.after s))) := by
    intro key act same kept
    rw [same]
    exact ⟨.inl (kept s), fun _ => done_display_iff.mpr (kept s)⟩
  cases op with
  | getQueue spec =>
    cases known
    exact read _ _ rfl (.bind (keeps_getQueue client serves spec) fun _ => .pure _)
  | getTopic name =>
    cases known
    refine read _ _ rfl (keeps_onWire ?_)
    refine .bind (.bind (.mapError (keeps_postMQSC client serves rfl)) fun resp => ?_) fun _ => .pure _
    exact .bind (.ofExcept _) fun _ => .pure _
  | getChannel spec =>
    cases known
    refine read _ _ rfl (keeps_onWire ?_)
    refine .bind (.bind (.ofExcept _) fun _ => .bind (.mapError (keeps_postMQSC client serves rfl)) fun resp => ?_)
      fun _ => .pure _
    exact .bind (.ofExcept _) fun _ => .pure _
  | defineQueue spec =>
    cases known
    exact written _ ((Refines.execute client serves rfl).checked _)
  | defineTopic spec =>
    cases known
    exact written _ (Refines.execute client serves rfl)
  | defineChannel spec =>
    cases known
    exact written _ ((Refines.execute client serves rfl).checked _)
  | deleteQueue spec =>
    cases known
    exact written _ ((Refines.deleteObject client serves _ _).checked _)
  | deleteTopic name =>
    cases known
    exact written _ (Refines.deleteObject client serves _ _)
  | deleteChannel spec =>
    cases known
    exact written _ (Refines.deleteObject client serves _ _)
  | _ => cases known

end Clients

section Runs

/-- Several clients in front of one network, each with its own breaker, session and probe cache. -/
structure Crew (σ ι : Type) where
  own : ι → ProbeWire Unit
  net : σ

variable [UnicodeTables] {σ ι : Type} [DecidableEq ι]

def Crew.seat (crew : Crew σ ι) (i : ι) : ProbeWire σ :=
  ⟨⟨(crew.own i).wire.breaker, (crew.own i).wire.session, crew.net⟩, (crew.own i).displayProbeCache⟩

def Crew.run (net : Network σ) (get : List String → σ → SendResult × σ) (clients : ι → Client) (crew : Crew σ ι)
    (call : ι × Operation) : Crew σ ι :=
  let after := (call.2.plain net (clients call.1) get).after (crew.seat call.1)
  { own := Function.update crew.own call.1 ⟨⟨after.wire.breaker, after.wire.session, ()⟩, after.displayProbeCache⟩
    net := after.wire.net }

variable {net : Network σ} {objects : σ → Objects} {get : List String → σ → SendResult × σ} {clients : ι → Client}

variable (get clients)

end Runs

section Cases

attribute [local instance] asciiTables

end Cases

end MKurator.MqRest
