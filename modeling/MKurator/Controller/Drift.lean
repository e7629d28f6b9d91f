import MKurator.Controller.Fleet

/-! Changes behind the operator's back. Once a resource has been adopted, others may change or delete its object, and other
resources may claim it: every healthy reconcile of the resource brings the object back in line, and writes only where it
has to. -/

namespace MKurator.Controller
open MKurator.Api MKurator.MqAdmin MKurator.Lib MKurator.Lib.Strings

section Held

variable {K : Kind} {site : Site K} {ι : Type} {name : ι} {first obj : Workload K.Spec} {fleet : Fleet K ι}

/-- The operator has taken the object over for this resource, and the request has not changed since. -/
structure Held (name : ι) (first : Workload K.Spec) (fleet : Fleet K ι) (obj : Workload K.Spec) : Prop where
  stored : fleet.crs name = some obj
  same : SameRequest first obj
  finalizer : K.finalizer ∈ obj.metadata.finalizers
  adopted : workloadFirstAdoption obj = false

def Spared (name : ι) : FleetAct K ι → Prop
  | .edit other _ => other ≠ name
  | .reconcile .. | .change .. => True

theorem outOfLine_of_spec {objects : ObjectAddress K → Option K.State} (same : obj.spec = first.spec) :
    OutOfLine site objects obj ↔ OutOfLine site objects first := by
  rw [OutOfLine, OutOfLine, address_of_spec same, same]

variable [UnicodeTables] {env : Env K.Spec K.MQSpec K.State}

theorem Held.mqWrites (held : Held name first fleet obj) (willing : Willing site first)
    (healthy : Healthy site fleet.objects env obj) :
    (reconcile K env).calls.filter Call.isMQWrite =
      if OutOfLine site fleet.objects first then [.define (K.toMQ first.spec)] else [] := by
  obtain ⟨text, -, written⟩ := writes_reconcile_willing healthy (held.same.willing willing)
    (permitted_of_adopted held.adopted) held.finalizer
  rw [reconcile_of_read healthy.read, filter_isMQWrite_calls, written, held.same.spec]
  simp only [outOfLine_of_spec held.same.spec]
  split <;> rfl

variable [DecidableEq ι]

theorem Held.settles (held : Held name first fleet obj) (willing : Willing site first)
    (healthy : Healthy site fleet.objects env obj) :
    ∃ kept, Held name first (fleet.next site (.reconcile name env)) kept ∧
      Settled site (fleet.next site (.reconcile name env)).objects kept := by
  have wants := held.same.willing willing
  obtain ⟨kept, stays, spec, metadata, settled⟩ :=
    Fleet.next_settles held.stored healthy wants (permitted_of_adopted held.adopted) held.finalizer
  refine ⟨kept, ⟨stays, ⟨spec.trans held.same.spec, ?_⟩, settled.finalizer, ?_⟩, settled⟩
  · rw [metadata]
    exact held.same.metadata
  · exact settled.adopted (metadata ▸ wants.generation)

theorem held_next (willing : Willing site first) (held : ∃ obj, Held name first fleet obj) {act : FleetAct K ι}
    (valid : fleet.Valid site act) (spared : Spared name act) :
    ∃ obj, Held name first (fleet.next site act) obj := by
  obtain ⟨obj, held⟩ := held
  have untouched : (fleet.next site act).crs name = fleet.crs name →
      ∃ obj, Held name first (fleet.next site act) obj :=
    fun kept => ⟨obj, kept.trans held.stored, held.same, held.finalizer, held.adopted⟩
  cases act with
  | reconcile other env =>
    obtain ⟨read, present, healthy⟩ := valid
    by_cases own : other = name
    · subst own
      obtain rfl := Option.some.inj (held.stored.symm.trans present)
      obtain ⟨kept, holds, -⟩ := held.settles willing healthy
      exact ⟨kept, holds⟩
    · exact untouched ((Fleet.touches_reconcile present healthy).crs name (Ne.symm own))
  | edit other new => exact untouched (Fleet.setCr_of_ne _ _ (Ne.symm spared))
  | change target contents => exact untouched rfl

theorem held_of_reach {allowed : Fleet K ι → FleetAct K ι → Prop} {last : Fleet K ι} (willing : Willing site first)
    (held : ∃ obj, Held name first fleet obj) (run : (fleetSystem site).Reach allowed fleet last)
    (spared : ∀ state act, allowed state act → Spared name act) : ∃ obj, Held name first last obj :=
  run.invariant (fun state => ∃ obj, Held name first state obj) held
    fun state act held valid permitted => held_next willing held valid (spared state act permitted)

/-- An adopted resource is settled again by each of its reconciles, and the reconcile writes to the queue manager exactly
when the object is missing or out of line. In between the object may have been changed by anyone, the reconciles of other
resources for the same object included. -/
theorem drift_repaired {last : Fleet K ι} (willing : Willing site first) (taken : Held name first fleet first)
    (run : (fleetSystem site).Reach (fun _ => Spared name) fleet last)
    (valid : last.Valid site (.reconcile name env)) :
    (∃ obj, (last.next site (.reconcile name env)).crs name = some obj ∧ SameRequest first obj ∧
      Settled site (last.next site (.reconcile name env)).objects obj) ∧
    (reconcile K env).calls.filter Call.isMQWrite =
      if OutOfLine site last.objects first then [.define (K.toMQ first.spec)] else [] := by
  obtain ⟨obj, held⟩ := held_of_reach willing ⟨first, taken⟩ run fun _ _ spared => spared
  obtain ⟨read, present, healthy⟩ := valid
  obtain rfl := Option.some.inj (held.stored.symm.trans present)
  obtain ⟨kept, after, settled⟩ := held.settles willing healthy
  exact ⟨⟨kept, after.stored, after.same, settled⟩, held.mqWrites willing healthy⟩

end Held

section Rivals

theorem attributesNeedUpdate_of_opposed [UnicodeTables] {mine yours observed : StringMap} {keys keys' : List String}
    {k v w : String} (checked : normalizeAttrKey k ∈ keys.map normalizeAttrKey)
    (checked' : normalizeAttrKey k ∈ keys'.map normalizeAttrKey)
    (wanted : mine.lookup k = some v) (wanted' : yours.lookup k = some w)
    (mismatch : attributeValueMatches (normalizeAttrKey k) v w = false)
    (inLine : attributesNeedUpdate mine observed keys = false) : attributesNeedUpdate yours observed keys' = true := by
  have same := attributeValueMatches_equivalence (normalizeAttrKey k)
  rw [attributesNeedUpdate_iff]
  refine ⟨k, w, wanted', checked', Bool.eq_false_of_not_eq_true fun matches_ => ?_⟩
  have drifts : attributesNeedUpdate mine observed keys = true := by
    refine (attributesNeedUpdate_iff ..).mpr ⟨k, v, wanted, checked, Bool.eq_false_of_not_eq_true fun also => ?_⟩
    exact absurd (same.trans also (same.symm matches_)) (by simp [mismatch])
  exact absurd drifts (by simp [inLine])

variable {K : Kind} {site : Site K} {ι : Type} {one two : ι} {mine yours : Workload K.Spec} {fleet last later : Fleet K ι}

/-- Two requests for the same object that no contents of it can meet together. -/
structure Rivals (site : Site K) (mine yours : Workload K.Spec) : Prop where
  address : site.address mine = site.address yours
  opposed : ∀ state, K.differs (site.keys (K.toMQ mine.spec)) (K.toMQ mine.spec) state = false →
    K.differs (site.keys (K.toMQ yours.spec)) (K.toMQ yours.spec) state = true

theorem rivals_of_attribute [UnicodeTables] {site : Site queueReconciler} {mine yours : Workload Api.QueueSpec}
    {k v w : String} (address : site.address mine = site.address yours)
    (checked : normalizeAttrKey k ∈ (site.keys (toMQQueueSpec mine.spec)).map normalizeAttrKey)
    (checked' : normalizeAttrKey k ∈ (site.keys (toMQQueueSpec yours.spec)).map normalizeAttrKey)
    (wanted : (toMQQueueSpec mine.spec).attributes.lookup k = some v)
    (wanted' : (toMQQueueSpec yours.spec).attributes.lookup k = some w)
    (mismatch : attributeValueMatches (normalizeAttrKey k) v w = false) : Rivals site mine yours :=
  ⟨address, fun _ => attributesNeedUpdate_of_opposed checked checked' wanted wanted' mismatch⟩

theorem Rivals.symm (rivals : Rivals site mine yours) : Rivals site yours mine := by
  refine ⟨rivals.address.symm, fun state inLine => ?_⟩
  by_contra also
  exact absurd (rivals.opposed state (Bool.eq_false_of_not_eq_true also)) (by simp [inLine])

theorem Rivals.outOfLine (rivals : Rivals site mine yours) {objects : ObjectAddress K → Option K.State}
    (inLine : ¬OutOfLine site objects mine) : OutOfLine site objects yours := by
  rw [OutOfLine, ← rivals.address]
  rw [OutOfLine] at inLine
  cases there : objects (site.address mine) with
  | none => rfl
  | some state =>
    rw [there] at inLine
    exact rivals.opposed state (Bool.eq_false_of_not_eq_true inLine)

variable [DecidableEq ι] [UnicodeTables] {mineEnv yourEnv : Env K.Spec K.MQSpec K.State}

/-- Two adopted resources that ask for different contents of one object undo each other's work for as long as both are
there: what one reconcile writes, the next reconcile of the other overwrites, and leaves the first out of line. -/
theorem rivals_overwrite (rivals : Rivals site mine yours) (willing : Willing site mine) (willing' : Willing site yours)
    (taken : Held one mine fleet mine) (taken' : Held two yours fleet yours)
    (run : (fleetSystem site).Reach (fun _ act => Spared one act ∧ Spared two act) fleet last)
    (valid : last.Valid site (.reconcile one mineEnv))
    (rest : (fleetSystem site).Reach (fun _ act => Spared one act ∧ Spared two act)
      (last.next site (.reconcile one mineEnv)) later)
    (undisturbed : later.objects (site.address mine) =
      (last.next site (.reconcile one mineEnv)).objects (site.address mine))
    (valid' : later.Valid site (.reconcile two yourEnv)) :
    (reconcile K yourEnv).calls.filter Call.isMQWrite = [.define (K.toMQ yours.spec)] ∧
      OutOfLine site (later.next site (.reconcile two yourEnv)).objects mine := by
  have between : (fleetSystem site).Reach (fun _ act => Spared one act ∧ Spared two act) fleet
      (last.next site (.reconcile one mineEnv)) :=
    run.step (.reconcile one mineEnv) valid ⟨trivial, trivial⟩
  obtain ⟨obj, held⟩ := held_of_reach willing ⟨mine, taken⟩ run fun _ _ spared => spared.1
  obtain ⟨read, present, healthy⟩ := valid
  obtain rfl := Option.some.inj (held.stored.symm.trans present)
  obtain ⟨kept, after, settled⟩ := held.settles willing healthy
  have inLine : ¬OutOfLine site later.objects mine := by
    rw [OutOfLine, undisturbed]
    exact mt (outOfLine_of_spec after.same.spec).mpr settled.inLine
  obtain ⟨other, held'⟩ := held_of_reach willing' ⟨yours, taken'⟩ (between.trans rest) fun _ _ spared => spared.2
  obtain ⟨read', present', healthy'⟩ := valid'
  obtain rfl := Option.some.inj (held'.stored.symm.trans present')
  obtain ⟨kept', after', settled'⟩ := held'.settles willing' healthy'
  constructor
  · rw [held'.mqWrites willing' healthy', if_pos (rivals.outOfLine inLine)]
  · exact rivals.symm.outOfLine (mt (outOfLine_of_spec after'.same.spec).mpr settled'.inLine)

end Rivals

section Cases

attribute [local instance] asciiTables

def adoptedQueue (description : String) : Workload Api.QueueSpec :=
  { orderedQueue none [queueFinalizer] with
    spec := { (orderedQueue none []).spec with description }
    status := { (orderedQueue none []).status with observedGeneration := 1 } }

def sharedFleet : Fleet queueReconciler String where
  crs name := if name = "orders" then some (adoptedQueue "in") else if name = "copy" then some (adoptedQueue "out") else none
  objects _ := some { name := "ORDERS", attributes := AList.insert "descr" "in" ∅ }

theorem held_orders : Held "orders" (adoptedQueue "in") sharedFleet (adoptedQueue "in") :=
  ⟨rfl, ⟨rfl, rfl⟩, by decide, by decide⟩

theorem held_copy : Held "copy" (adoptedQueue "out") sharedFleet (adoptedQueue "out") :=
  ⟨rfl, ⟨rfl, rfl⟩, by decide, by decide⟩

theorem willing_orders : Willing plainSite (adoptedQueue "in") :=
  ⟨rfl, rfl, by decide, by decide, ⟨rfl, _, rfl⟩, fun old => (differs_plainSite _ _ old).trans (by decide)⟩

theorem willing_copy : Willing plainSite (adoptedQueue "out") :=
  ⟨rfl, rfl, by decide, by decide, ⟨rfl, _, rfl⟩, fun old => (differs_plainSite _ _ old).trans (by decide)⟩

def lostFleet : Fleet queueReconciler String :=
  sharedFleet.next plainSite (.change (plainSite.address (adoptedQueue "in")) none)

theorem drift_repaired_orders : ∃ env : Env Api.QueueSpec MqAdmin.QueueSpec QueueState,
    (reconcile queueReconciler env).calls.filter Call.isMQWrite = [.define (toMQQueueSpec (adoptedQueue "in").spec)] := by
  have run : (fleetSystem plainSite).Reach (fun _ => Spared "orders") sharedFleet lostFleet :=
    System.Reach.start.step (FleetAct.change (plainSite.address (adoptedQueue "in")) none) trivial trivial
  have gone : lostFleet.objects (plainSite.address (adoptedQueue "in")) = none := Fleet.setObject_self ..
  have missing : OutOfLine plainSite lostFleet.objects (adoptedQueue "in") := by
    simp only [OutOfLine, gone, KindBase.needsUpdate]
  have repaired := (drift_repaired willing_orders held_orders run ⟨_, rfl, healthy_calmFor plainSite _ _⟩).2
  rw [if_pos missing] at repaired
  exact ⟨_, repaired⟩

theorem rivals_orders : Rivals plainSite (adoptedQueue "in") (adoptedQueue "out") := by
  refine rivals_of_attribute (k := "descr") (v := "in") (w := "out") ?_ ?_ ?_ ?_ ?_ ?_
  · rfl
  · decide
  · decide
  · decide
  · decide
  · decide

theorem rivals_overwrite_orders : ∃ env : Env Api.QueueSpec MqAdmin.QueueSpec QueueState,
    (reconcile queueReconciler env).calls.filter Call.isMQWrite =
      [.define (toMQQueueSpec (adoptedQueue "out").spec)] := by
  have healthy := healthy_calmFor plainSite sharedFleet.objects (adoptedQueue "in")
  have apart := (Fleet.touches_reconcile (show sharedFleet.crs "orders" = _ from rfl) healthy).crs "copy" (by decide)
  obtain ⟨overwrites, -⟩ := rivals_overwrite rivals_orders willing_orders willing_copy held_orders held_copy .start
    ⟨_, rfl, healthy⟩ .start rfl ⟨_, apart, healthy_calmFor plainSite _ (adoptedQueue "out")⟩
  exact ⟨_, overwrites⟩

end Cases

end MKurator.Controller
