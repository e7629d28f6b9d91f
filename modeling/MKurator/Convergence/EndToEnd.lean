import MKurator.Controller.Fleet
import MKurator.Convergence.Attributes
import MKurator.Convergence.ChannelAuth

/-! From an admitted resource to its object in IBM MQ. On queue managers that store what a command sends and display what
they stored, what one sync writes is in line for the next, so that the reconciles of a resource settle it. Authority
records are left out: a SET AUTHREC only adds to what a record holds. -/

namespace MKurator.Convergence
open MKurator.Api MKurator.MqAdmin MKurator.MqRest MKurator.Controller MKurator.Lib MKurator.Lib.Strings
open MKurator.Lib.Mqsc

section Served

variable [UnicodeTables]

/-- The queue managers store the parameters of a DEFINE QLOCAL, QALIAS or QREMOTE, and show those that are asked for. -/
structure KeepsQueues (site : Site queueReconciler) (displayable : String → Bool) : Prop where
  keys : ∀ spec, site.keys spec = queueDisplayParametersForGet displayable spec.type
  shown : ∀ spec old, ∃ resp attrs,
    ShowsStored resp (queueDisplayParametersForGet displayable spec.type) (defineQueueParameters spec) ∧
      resp.firstObjectAttributes = .ok attrs ∧
      (site.stored spec old).attributes = normalizeQueueAttributes attrs spec.type

structure KeepsTopics (site : Site topicReconciler) : Prop where
  keys : ∀ spec, site.keys spec = topicDisplayParameters
  shown : ∀ spec old, ∃ resp attrs, ShowsStored resp topicDisplayParameters (defineTopicParameters spec) ∧
    resp.firstObjectAttributes = .ok attrs ∧ (site.stored spec old).attributes = normalizeTopicAttributes attrs

structure KeepsChannels (site : Site channelReconciler) : Prop where
  keys : ∀ spec, site.keys spec = channelDisplayParametersForType spec.type
  shown : ∀ spec old, ∃ resp attrs,
    ShowsStored resp (channelDisplayParametersForType spec.type) (defineChannelParameters spec) ∧
      resp.firstObjectAttributes = .ok attrs ∧ (site.stored spec old).attributes = attrs

/-- The clauses of a SET CHLAUTH with ACTION(REPLACE) are stored as the queue manager reads them. -/
structure KeepsRules (site : Site channelAuthRuleReconciler) : Prop where
  shown : ∀ spec old command clauses, buildSetChannelAuthMQSC spec mqscActionReplace = .ok command →
    Mqsc.read command = some (.word "SET" :: clauses) →
      site.stored spec old = channelAuthStateFromAttributes spec (storedAttributes clauses)

/-- A resource that the schema admits, on queue managers that keep what they are sent. Two spellings of one attribute are
left out, since the value that is sent then depends on the order in which the map is walked. -/
inductive Served : (K : Kind) → Site K → Workload K.Spec → Prop
  | queue {site : Site queueReconciler} {displayable : String → Bool} (keeps : KeepsQueues site displayable)
      (obj : Workload Api.QueueSpec) (type : ∀ text, obj.spec.type ≠ .other text)
      (distinct : DistinctKeys obj.spec.attributes) : Served queueReconciler site obj
  | topic {site : Site topicReconciler} (keeps : KeepsTopics site) (obj : Workload Api.TopicSpec)
      (ascii : AsciiAccess obj.spec.attributes) (distinct : DistinctKeys obj.spec.attributes) :
      Served topicReconciler site obj
  | channel {site : Site channelReconciler} (keeps : KeepsChannels site) (obj : Workload Api.ChannelSpec)
      (type : ∀ text, obj.spec.type ≠ .other text) (distinct : DistinctKeys obj.spec.attributes) :
      Served channelReconciler site obj
  | channelAuthRule {site : Site channelAuthRuleReconciler} (keeps : KeepsRules site)
      (obj : Workload ChannelAuthRuleSpec) (admitted : ChannelAuthAdmitted obj.spec) (plain : NoForeignIdentity obj.spec) :
      Served channelAuthRuleReconciler site obj

theorem KeepsQueues.settles {site : Site queueReconciler} {displayable : String → Bool} (keeps : KeepsQueues site displayable)
    (q : Api.QueueSpec) (old : Option QueueState) :
    attributesNeedUpdate (toMQQueueSpec q).attributes (site.stored (toMQQueueSpec q) old).attributes
      (site.keys (toMQQueueSpec q)) = false := by
  obtain ⟨resp, attrs, shown, decoded, stored⟩ := keeps.shown (toMQQueueSpec q) old
  obtain ⟨again, decoded', none⟩ := queue_settles displayable q (fun _ => rfl) shown
  obtain rfl := Except.ok.inj (decoded.symm.trans decoded')
  have read : attributesNeedUpdate (toMQQueueSpec q).attributes (site.stored (toMQQueueSpec q) old).attributes
      (site.keys (toMQQueueSpec q)) = attributesNeedUpdate (toMQQueueSpec q).attributes
        (normalizeQueueAttributes attrs q.type) (queueDisplayParametersForGet displayable q.type) :=
    congrArg₂ (attributesNeedUpdate (toMQQueueSpec q).attributes) stored (keeps.keys (toMQQueueSpec q))
  exact read.trans (attributesNeedUpdate_of_no_drift none)

theorem KeepsTopics.settles {site : Site topicReconciler} (keeps : KeepsTopics site) {topic : Api.TopicSpec}
    (ascii : AsciiAccess topic.attributes) (old : Option TopicState) :
    attributesNeedUpdate (toMQTopicSpec topic).attributes (site.stored (toMQTopicSpec topic) old).attributes
      (site.keys (toMQTopicSpec topic)) = false := by
  obtain ⟨resp, attrs, shown, decoded, stored⟩ := keeps.shown (toMQTopicSpec topic) old
  obtain ⟨again, decoded', none⟩ := topic_settles topic ascii (fun _ => rfl) shown
  obtain rfl := Except.ok.inj (decoded.symm.trans decoded')
  have read : attributesNeedUpdate (toMQTopicSpec topic).attributes (site.stored (toMQTopicSpec topic) old).attributes
      (site.keys (toMQTopicSpec topic)) = attributesNeedUpdate (toMQTopicSpec topic).attributes
        (normalizeTopicAttributes attrs) topicDisplayParameters :=
    congrArg₂ (attributesNeedUpdate (toMQTopicSpec topic).attributes) stored (keeps.keys (toMQTopicSpec topic))
  exact read.trans (attributesNeedUpdate_of_no_drift none)

theorem KeepsChannels.settles {site : Site channelReconciler} (keeps : KeepsChannels site) (channel : Api.ChannelSpec)
    (old : Option ChannelState) :
    attributesNeedUpdate (toMQChannelSpec channel).attributes (site.stored (toMQChannelSpec channel) old).attributes
      (site.keys (toMQChannelSpec channel)) = false := by
  obtain ⟨resp, attrs, shown, decoded, stored⟩ := keeps.shown (toMQChannelSpec channel) old
  obtain ⟨again, decoded', none⟩ := channel_settles channel (fun _ => rfl) shown
  obtain rfl := Except.ok.inj (decoded.symm.trans decoded')
  have read : attributesNeedUpdate (toMQChannelSpec channel).attributes
      (site.stored (toMQChannelSpec channel) old).attributes (site.keys (toMQChannelSpec channel)) =
        attributesNeedUpdate (toMQChannelSpec channel).attributes attrs
          (channelDisplayParametersForType (toMQChannelSpec channel).type) :=
    congrArg₂ (attributesNeedUpdate (toMQChannelSpec channel).attributes) stored (keeps.keys (toMQChannelSpec channel))
  exact read.trans (attributesNeedUpdate_of_no_drift none)

theorem KeepsRules.settles {site : Site channelAuthRuleReconciler} (keeps : KeepsRules site) {rule : ChannelAuthRuleSpec}
    (admitted : ChannelAuthAdmitted rule) (plain : NoForeignIdentity rule) (old : Option ChannelAuthState) :
    channelAuthNeedsUpdate (toMQChannelAuthSpec rule) (site.stored (toMQChannelAuthSpec rule) old) = false := by
  obtain ⟨ruleType, checked⟩ := admitted.checked
  obtain ⟨source, check⟩ := toMQChannelAuthSpec_bare rule
  obtain ⟨command, built, reads⟩ := set_command_reads checked source check
  have applied := displayed_state (toMQChannelAuthSpec rule) ruleType admitted.blockAddr
  have read : site.stored (toMQChannelAuthSpec rule) old = appliedState (toMQChannelAuthSpec rule) :=
    (keeps.shown (toMQChannelAuthSpec rule) old command _ built reads).trans applied
  exact (congrArg (channelAuthNeedsUpdate (toMQChannelAuthSpec rule)) read).trans
    ((needsUpdate_applied (toMQChannelAuthSpec rule)).mpr plain)

structure Asks {σ : Type} [WorkloadSpec σ] (obj : Workload σ) : Prop where
  unsuspended : workloadSuspended obj = false
  live : obj.metadata.deletionTimestamp = none
  generation : 0 < obj.metadata.generation
  acting : isObserveOnly obj = false

theorem renders_queue {obj : Workload Api.QueueSpec} (type : ∀ text, obj.spec.type ≠ .other text) :
    Renders queueReconciler obj := by
  have valid : validateQueueType (toMQQueueSpec obj.spec).type = .ok () := by
    change validateQueueType obj.spec.type = .ok ()
    cases named : obj.spec.type with
    | other text => exact absurd named (type text)
    | _ => rfl
  refine ⟨rfl, formatDefineObjectMQSC (defineQueueMQSCKeyword obj.spec.type) obj.spec.queueName
    (defineQueueParameters (toMQQueueSpec obj.spec)), ?_⟩
  change formatDefineQueueMQSC (toMQQueueSpec obj.spec) = _
  rw [formatDefineQueueMQSC, valid]
  rfl

theorem renders_channel {obj : Workload Api.ChannelSpec} (type : ∀ text, obj.spec.type ≠ .other text) :
    Renders channelReconciler obj := by
  have supported : channelTypeSupported obj.spec.type = true := by
    cases named : obj.spec.type with
    | other text => exact absurd named (type text)
    | _ => rfl
  exact ⟨if_neg (by simp [supported]), _, rfl⟩

theorem renders_rule {obj : Workload ChannelAuthRuleSpec} (admitted : ChannelAuthAdmitted obj.spec) :
    Renders channelAuthRuleReconciler obj := by
  obtain ⟨ruleType, checked⟩ := admitted.checked
  obtain ⟨source, check⟩ := toMQChannelAuthSpec_bare obj.spec
  obtain ⟨command, built, -⟩ := set_command_reads checked source check
  exact ⟨rfl, command, built⟩

theorem differs_rule (keys : List String) (spec : ChannelAuthSpec) (state : ChannelAuthState) :
    channelAuthRuleReconciler.differs keys spec state = channelAuthNeedsUpdate spec state := by
  simp only [channelAuthRuleReconciler, channelAuthRuleBase]

theorem Served.willing {K : Kind} {site : Site K} {obj : Workload K.Spec} (served : Served K site obj) (asks : Asks obj) :
    Willing site obj := by
  obtain ⟨unsuspended, live, generation, acting⟩ := asks
  cases served with
  | queue keeps obj type _ =>
    exact ⟨unsuspended, live, generation, acting, renders_queue type, keeps.settles obj.spec⟩
  | topic keeps obj ascii _ =>
    exact ⟨unsuspended, live, generation, acting, ⟨rfl, _, rfl⟩, keeps.settles ascii⟩
  | channel keeps obj type _ =>
    exact ⟨unsuspended, live, generation, acting, renders_channel type, keeps.settles obj.spec⟩
  | channelAuthRule keeps obj admitted plain =>
    exact ⟨unsuspended, live, generation, acting, renders_rule admitted,
      fun old => (differs_rule ..).trans (keeps.settles admitted plain old)⟩

end Served

section Settles

variable [UnicodeTables] {K : Kind} {site : Site K} {ι : Type} [DecidableEq ι] {name : ι} {first : Workload K.Spec}
  {fleet : Fleet K ι}

/-- An admitted resource that may have its object gets it: after two reconciles of its own, among whatever happens to
other resources and objects, the object is as the resource asks, DISPLAY shows no drift, and the status says so. -/
theorem admitted_resource_settles {actions : List (FleetAct K ι)} (served : Served K site first) (asks : Asks first)
    (stored : fleet.crs name = some first) (permitted : Permitted site fleet.objects first)
    (alone : Alone site name first fleet)
    (follows : (fleetSystem site).Follows (fun _ => Leaves site name first) fleet actions)
    (twice : 2 ≤ actions.countP (isReconcileOf name)) :
    ∃ obj, (actions.foldl (Fleet.next site) fleet).crs name = some obj ∧ SameRequest first obj ∧
      Settled site (actions.foldl (Fleet.next site) fleet).objects obj := by
  obtain ⟨obj, present, same, -, -, settled⟩ :=
    (progress_of_follows (served.willing asks) stored permitted alone follows).own
  exact ⟨obj, present, same, settled (by omega)⟩

end Settles

section Cases

attribute [local instance] asciiTables

def shownAttributes (spec : MqAdmin.QueueSpec) : StringMap :=
  (displayAnswer (queueDisplayParametersForGet (fun _ => false) spec.type)
    (defineQueueParameters spec)).firstObjectAttributes.toOption.getD ∅

def displaySite : Site queueReconciler where
  managers _ := calmManager
  stored spec _ := { name := spec.name, attributes := normalizeQueueAttributes (shownAttributes spec) spec.type }
  localDriftKeys := queueLocalDisplayParametersResolved fun _ => false
  keys spec := queueDisplayParametersForGet (fun _ => false) spec.type
  resolved admin spec answers := by
    simp only [queueReconciler, queueBase, resolveQueueDriftCheckKeys, queueDisplayParametersForGet]
    split
    · rfl
    · exact answers

theorem displaySite_keeps : KeepsQueues displaySite fun _ => false where
  keys _ := rfl
  shown spec old := by
    have lower : ∀ key ∈ queueDisplayParametersForGet (fun _ => false) spec.type, toLower key = key :=
      fun key member => toLower_queueDisplayName (queueDisplayParametersForGet_mem _ spec.type member)
    have shown := displayAnswer_shows (queueDisplayParametersForGet (fun _ => false) spec.type) (defineQueueParameters spec)
    obtain ⟨attrs, decoded, -⟩ := shown.attributes fun first one second two same => by
      rwa [lower first one, lower second two] at same
    have seen : shownAttributes spec = attrs := by rw [shownAttributes, decoded]; rfl
    exact ⟨_, attrs, shown, decoded, congrArg (normalizeQueueAttributes · spec.type) seen⟩

theorem served_orderedQueue : Served queueReconciler displaySite (orderedQueue none []) :=
  .queue displaySite_keeps _ (fun _ => nofun) (by unfold DistinctKeys; decide)

theorem admitted_resource_settles_orders :
    let actions := firstVisits displaySite (ordersFleet (orderedQueue none [])) "orders" (orderedQueue none [])
    ∃ obj, (actions.foldl (Fleet.next displaySite) (ordersFleet (orderedQueue none []))).crs "orders" = some obj ∧
      SameRequest (orderedQueue none []) obj ∧
      Settled displaySite (actions.foldl (Fleet.next displaySite) (ordersFleet (orderedQueue none []))).objects obj := by
  have asks : Asks (orderedQueue none []) := ⟨rfl, rfl, by decide, by decide⟩
  have alone : Alone displaySite "orders" (orderedQueue none []) (ordersFleet (orderedQueue none [])) := by
    intro other found apart present
    simp [ordersFleet, apart] at present
  have permitted : Permitted displaySite (ordersFleet (orderedQueue none [])).objects (orderedQueue none []) :=
    (adoptionBlockForExisting_eq_none_iff ..).mpr (.inr (.inr (.inl rfl)))
  exact admitted_resource_settles served_orderedQueue asks (stored_ordersFleet _) permitted alone
    (follows_firstVisits (served_orderedQueue.willing asks) (stored_ordersFleet _) (by decide)) (by decide)

end Cases

end MKurator.Convergence
