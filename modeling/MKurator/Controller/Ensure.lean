import MKurator.Controller.Reconcile
import MKurator.MqRest.Command

/-! The two ensure steps: queues, topics and channels look at observe-only before adoption, the two auth kinds after. -/

namespace MKurator.Controller
open MKurator.Api MKurator.MqAdmin MKurator.MqRest MKurator.Lib MKurator.Lib.Strings

/-- A GET in which only `ErrNotFound` counts as an answer among the errors. -/
def observeObject {σ μ τ : Type} (admin : Admin μ τ) (spec : μ) : Traced (Call σ μ) (Except MqError (Option τ)) := do
  let (state, err) ← .call (.getObject spec) (admin.get spec)
  match err with
  | some e => if e.isNotFound then return .ok state else return .error e
  | none => return .ok state

section Attributes

variable [UnicodeTables] {σ μ τ : Type}

/-- Existence, drift message and error, as the source returns them; an empty message is no drift. -/
def reconcileMQObjectState (observeOnly : Bool) (policy : AdoptionPolicy) (firstAdoption present : Bool)
    (observedAttrs desiredAttrs : StringMap) (driftKeys : List String) (objectLabel : String)
    (defineFn : Traced (Call σ μ) WriteAnswer) : Traced (Call σ μ) (Bool × String × Option EnsureError) := do
  if observeOnly then
    if !present then return (false, objectLabel ++ " not found on queue manager", none)
    let drifts := attributeDriftsForKeys desiredAttrs observedAttrs driftKeys
    if 0 < drifts.length then return (true, formatAttributeDriftMessage drifts, none)
    return (true, "", none)
  let needsUpdate := !present || attributesNeedUpdate desiredAttrs observedAttrs driftKeys
  match adoptionBlockForExisting policy firstAdoption present needsUpdate objectLabel
      (attributeMismatchMessage desiredAttrs observedAttrs driftKeys objectLabel) with
  | some block => return (present, "", some (.blocked block))
  | none =>
    if needsUpdate then
      match (← defineFn).err with
      | some e => return (present, "", some (.failed e))
      | none => return (true, "", none)
    return (present, "", none)

/-- The ensure step of the attribute kinds, for a way to resolve the drift-check keys. -/
def ensureAttributes [WorkloadSpec σ] (desired : μ → StringMap) (attributes : τ → StringMap) (label : μ → String)
    (resolveKeys : Admin μ τ → μ → Traced (Call σ μ) (Except MqError (List String)))
    (admin : Admin μ τ) (obj : Workload σ) (spec : μ) : Traced (Call σ μ) EnsureResult := do
  match ← observeObject admin spec with
  | .error e => return ⟨false, none, some (.failed e)⟩
  | .ok observed =>
    match ← resolveKeys admin spec with
    | .error e => return ⟨false, none, some (.failed e)⟩
    | .ok driftKeys =>
      let (present, driftMsg, err) ← reconcileMQObjectState (isObserveOnly obj) (workloadAdoptionPolicy obj)
        (workloadFirstAdoption obj) observed.isSome ((observed.map attributes).getD ∅) (desired spec) driftKeys
        (label spec) (.call (.define spec) (admin.define spec))
      return ⟨present, if driftMsg = "" then none else some driftMsg, err⟩

def staticKeys (keys : μ → List String) (_ : Admin μ τ) (spec : μ) :
    Traced (Call σ μ) (Except MqError (List String)) :=
  pure (.ok (keys spec))

def ensureAuthObject [WorkloadSpec σ] (differs : μ → τ → Bool) (label : μ → String) (mismatch : String)
    (driftName driftLabel : μ → String) (admin : Admin μ τ) (obj : Workload σ) (spec : μ) :
    Traced (Call σ μ) EnsureResult := do
  match ← observeObject admin spec with
  | .error e => return ⟨false, none, some (.failed e)⟩
  | .ok observed =>
    let present := observed.isSome
    let needsUpdate := observed.elim true (differs spec)
    match adoptionBlockForExisting (workloadAdoptionPolicy obj) (workloadFirstAdoption obj) present needsUpdate
        (label spec) mismatch with
    | some block => return ⟨present, none, some (.blocked block)⟩
    | none =>
      if needsUpdate then
        if isObserveOnly obj then
          return ⟨present, some (observeOnlyAuthDriftMessage present (driftName spec) (driftLabel spec)), none⟩
        match (← .call (.define spec) (admin.define spec)).err with
        | some e => return ⟨present, none, some (.failed e)⟩
        | none => return ⟨true, none, none⟩
      return ⟨true, none, none⟩

section Congruence

variable [WorkloadSpec σ] (admin : Admin μ τ) (obj obj' : Workload σ) (spec : μ)
  (observeOnly : isObserveOnly obj = isObserveOnly obj')
  (policy : workloadAdoptionPolicy obj = workloadAdoptionPolicy obj')
  (first : workloadFirstAdoption obj = workloadFirstAdoption obj')

include observeOnly policy first

theorem ensureAttributes_congr (desired : μ → StringMap) (attributes : τ → StringMap) (label : μ → String)
    (resolveKeys : Admin μ τ → μ → Traced (Call σ μ) (Except MqError (List String))) :
    ensureAttributes desired attributes label resolveKeys admin obj spec =
      ensureAttributes desired attributes label resolveKeys admin obj' spec := by
  unfold ensureAttributes
  rw [observeOnly, policy, first]

theorem ensureAuthObject_congr (differs : μ → τ → Bool) (label : μ → String) (mismatch : String)
    (driftName driftLabel : μ → String) :
    ensureAuthObject differs label mismatch driftName driftLabel admin obj spec =
      ensureAuthObject differs label mismatch driftName driftLabel admin obj' spec := by
  unfold ensureAuthObject
  rw [observeOnly, policy, first]

end Congruence

end Attributes

section Cases

variable (B : KindBase)

theorem observeObject_cases (admin : Admin B.MQSpec B.State) (spec : B.MQSpec) :
    (observeObject (σ := B.Spec) admin spec).calls = [.getObject spec] ∧
      ((∃ e, (admin.get spec).2 = some e ∧ e.isNotFound = false ∧
          (observeObject (σ := B.Spec) admin spec).value = .error e) ∨
        (B.GetAnswered admin spec ∧
          (observeObject (σ := B.Spec) admin spec).value = .ok (B.observed admin spec))) := by
  unfold observeObject KindBase.GetAnswered KindBase.observed
  rcases admin.get spec with ⟨state, err⟩
  cases err with
  | none => exact ⟨rfl, .inr ⟨fun e absurdity => (by cases absurdity), rfl⟩⟩
  | some e =>
    cases missing : e.isNotFound with
    | true => simp [missing]
    | false => simp [missing]

variable [UnicodeTables]

theorem reconcileMQObjectState_observing {σ μ : Type} (policy : AdoptionPolicy) (firstAdoption present : Bool)
    (observedAttrs desiredAttrs : StringMap) (driftKeys : List String) (objectLabel : String)
    (defineFn : Traced (Call σ μ) WriteAnswer) :
    ∃ message, reconcileMQObjectState true policy firstAdoption present observedAttrs desiredAttrs driftKeys objectLabel
        defineFn = pure (present, message, none) ∧
      (message = "" ↔ (!present || attributesNeedUpdate desiredAttrs observedAttrs driftKeys) = false) := by
  cases present with
  | false =>
    refine ⟨objectLabel ++ " not found on queue manager", rfl, ?_⟩
    refine iff_of_false ?_ Bool.true_eq_false_eq_False
    intro empty
    have letters := congrArg String.toList empty
    simp at letters
  | true =>
    unfold reconcileMQObjectState
    by_cases drift : 0 < (attributeDriftsForKeys desiredAttrs observedAttrs driftKeys).length
    · refine ⟨formatAttributeDriftMessage (attributeDriftsForKeys desiredAttrs observedAttrs driftKeys),
        by simp [drift], ?_⟩
      have message := formatAttributeDriftMessage_ne_empty _ (List.ne_nil_of_length_pos drift)
      exact iff_of_false message (by simp [attributesNeedUpdate, drift])
    · exact ⟨"", by simp [drift], iff_of_true rfl (by simp [attributesNeedUpdate, drift])⟩

theorem reconcileMQObjectState_cases (desired : B.MQSpec → StringMap) (attributes : B.State → StringMap)
    (first : B.observeOnlyFirst = true)
    (differs : ∀ keys spec state, B.differs keys spec state = attributesNeedUpdate (desired spec) (attributes state) keys)
    (mismatch : ∀ keys spec state, B.mismatchMessage keys spec state =
      attributeMismatchMessage (desired spec) ((state.map attributes).getD ∅) keys (B.objectLabel spec))
    (admin : Admin B.MQSpec B.State) (obj : Workload B.Spec) (spec : B.MQSpec) (keys : List String)
    (reads : List (Call B.Spec B.MQSpec)) (readOnly : ∀ call ∈ reads, call.isMQRead = true)
    (answered : B.GetAnswered admin spec) (resolved : B.driftKeys admin spec = .ok keys)
    (out : Traced (Call B.Spec B.MQSpec) (Bool × String × Option EnsureError))
    (ran : out = reconcileMQObjectState (isObserveOnly obj) (workloadAdoptionPolicy obj) (workloadFirstAdoption obj)
      (B.observed admin spec).isSome (((B.observed admin spec).map attributes).getD ∅) (desired spec) keys
      (B.objectLabel spec) (.call (.define spec) (admin.define spec))) :
    B.EnsureCase admin obj spec (reads ++ out.calls)
      ⟨out.value.1, if out.value.2.1 = "" then none else some out.value.2.1, out.value.2.2⟩ := by
  have needed : (!(B.observed admin spec).isSome ||
      attributesNeedUpdate (desired spec) (((B.observed admin spec).map attributes).getD ∅) keys) =
      B.needsUpdate keys spec (B.observed admin spec) := by
    cases B.observed admin spec with
    | none => rfl
    | some state => simpa [KindBase.needsUpdate] using (differs keys spec state).symm
  have verdict : adoptionBlockForExisting (workloadAdoptionPolicy obj) (workloadFirstAdoption obj)
      (B.observed admin spec).isSome (B.needsUpdate keys spec (B.observed admin spec)) (B.objectLabel spec)
      (attributeMismatchMessage (desired spec) (((B.observed admin spec).map attributes).getD ∅) keys
        (B.objectLabel spec)) = B.adoptionBlock keys obj spec (B.observed admin spec) := by
    rw [KindBase.adoptionBlock, mismatch]
  have present : B.needsUpdate keys spec (B.observed admin spec) = false → (B.observed admin spec).isSome = true := by
    intro update
    cases state : B.observed admin spec with
    | none => rw [state] at update; cases update
    | some found => rfl
  cases observing : isObserveOnly obj with
  | true =>
    obtain ⟨message, returned, quiet⟩ := reconcileMQObjectState_observing (workloadAdoptionPolicy obj)
      (workloadFirstAdoption obj) (B.observed admin spec).isSome (((B.observed admin spec).map attributes).getD ∅)
      (desired spec) keys (B.objectLabel spec) (.call (.define spec) (admin.define spec))
    rw [needed] at quiet
    rw [observing, returned] at ran
    cases update : B.needsUpdate keys spec (B.observed admin spec) with
    | true =>
      have told : message ≠ "" := fun empty => Bool.false_ne_true ((quiet.mp empty).symm.trans update)
      have result : B.EnsureCase admin obj spec reads _ :=
        .drifted keys message reads readOnly answered resolved observing update
      simpa [ran, told] using result
    | false =>
      have result : B.EnsureCase admin obj spec reads _ :=
        .inSync keys reads readOnly answered resolved update (.inr ⟨first, observing⟩)
      simpa [ran, quiet.mpr update, present update] using result
  | false =>
    have asked : ¬(B.observeOnlyFirst = true ∧ isObserveOnly obj = true) := by
      rintro ⟨-, absurdity⟩
      rw [observing] at absurdity
      cases absurdity
    unfold reconcileMQObjectState at ran
    simp only [needed, verdict, observing, Bool.false_eq_true, if_false] at ran
    cases verdict : B.adoptionBlock keys obj spec (B.observed admin spec) with
    | some block =>
      have result : B.EnsureCase admin obj spec reads _ := .blocked keys block reads readOnly answered resolved verdict asked
      simpa [ran, verdict] using result
    | none =>
      cases update : B.needsUpdate keys spec (B.observed admin spec) with
      | false =>
        have result : B.EnsureCase admin obj spec reads _ := .inSync keys reads readOnly answered resolved update
          (.inl verdict)
        simpa [ran, verdict, update, present update] using result
      | true =>
        cases failure : (admin.define spec).err with
        | some e =>
          have result : B.EnsureCase admin obj spec _ _ := .defineFailed keys e reads readOnly answered resolved
            observing update verdict failure
          simpa [ran, verdict, update, failure] using result
        | none =>
          have success := (WriteAnswer.err_eq_none_iff _).mp failure
          have result : B.EnsureCase admin obj spec _ _ := .defined keys reads readOnly answered resolved
            observing update verdict success
          simpa [ran, verdict, update, failure] using result

theorem ensureAttributes_cases (desired : B.MQSpec → StringMap) (attributes : B.State → StringMap)
    (resolveKeys : Admin B.MQSpec B.State → B.MQSpec → Traced (Call B.Spec B.MQSpec) (Except MqError (List String)))
    (first : B.observeOnlyFirst = true)
    (keysRead : ∀ admin spec, ∀ call ∈ (resolveKeys admin spec).calls, call.isMQRead = true)
    (keys : ∀ admin spec, B.driftKeys admin spec = (resolveKeys admin spec).value)
    (differs : ∀ keys spec state, B.differs keys spec state = attributesNeedUpdate (desired spec) (attributes state) keys)
    (mismatch : ∀ keys spec state, B.mismatchMessage keys spec state =
      attributeMismatchMessage (desired spec) ((state.map attributes).getD ∅) keys (B.objectLabel spec))
    (admin : Admin B.MQSpec B.State) (obj : Workload B.Spec) (spec : B.MQSpec) :
    B.EnsureCase admin obj spec (ensureAttributes desired attributes B.objectLabel resolveKeys admin obj spec).calls
      (ensureAttributes desired attributes B.objectLabel resolveKeys admin obj spec).value := by
  unfold ensureAttributes
  obtain ⟨get, answer⟩ := observeObject_cases B admin spec
  rcases answer with ⟨e, failure, other, value⟩ | ⟨answered, value⟩
  · simpa [get, value] using KindBase.EnsureCase.getFailed e failure other
  · have readOnly : ∀ call ∈ Call.getObject spec :: (resolveKeys admin spec).calls, call.isMQRead = true := by
      intro call member
      rcases List.mem_cons.mp member with rfl | later
      · rfl
      · exact keysRead admin spec call later
    cases resolution : (resolveKeys admin spec).value with
    | error e =>
      have unresolved : B.driftKeys admin spec = .error e := (keys admin spec).trans resolution
      have result : B.EnsureCase admin obj spec _ _ := .keysFailed e _ readOnly answered unresolved
      simpa [get, value, resolution] using result
    | ok found =>
      have resolved : B.driftKeys admin spec = .ok found := (keys admin spec).trans resolution
      have result := reconcileMQObjectState_cases B desired attributes first differs mismatch admin obj spec found _
        readOnly answered resolved _ rfl
      simpa [get, value, resolution] using result

theorem ensureAuthObject_cases (differs : B.MQSpec → B.State → Bool) (mismatch : String)
    (driftName driftLabel : B.MQSpec → String)
    (keyless : ∀ admin spec, B.driftKeys admin spec = .ok [])
    (same : ∀ keys spec state, B.differs keys spec state = differs spec state)
    (text : ∀ keys spec state, B.mismatchMessage keys spec state = mismatch)
    (later : B.observeOnlyFirst = false)
    (admin : Admin B.MQSpec B.State) (obj : Workload B.Spec) (spec : B.MQSpec) :
    B.EnsureCase admin obj spec
      (ensureAuthObject differs B.objectLabel mismatch driftName driftLabel admin obj spec).calls
      (ensureAuthObject differs B.objectLabel mismatch driftName driftLabel admin obj spec).value := by
  unfold ensureAuthObject
  obtain ⟨get, answer⟩ := observeObject_cases B admin spec
  rcases answer with ⟨e, failure, other, value⟩ | ⟨answered, value⟩
  · simpa [get, value] using KindBase.EnsureCase.getFailed e failure other
  · have readOnly : ∀ call ∈ [(Call.getObject spec : Call B.Spec B.MQSpec)], call.isMQRead = true := by
      intro call member
      rw [List.mem_singleton.mp member]
      rfl
    have resolved := keyless admin spec
    have needed : (B.observed admin spec).elim true (differs spec) =
        B.needsUpdate [] spec (B.observed admin spec) := by
      cases B.observed admin spec with
      | none => rfl
      | some state => exact (same [] spec state).symm
    have verdict : adoptionBlockForExisting (workloadAdoptionPolicy obj) (workloadFirstAdoption obj)
        (B.observed admin spec).isSome (B.needsUpdate [] spec (B.observed admin spec)) (B.objectLabel spec) mismatch =
        B.adoptionBlock [] obj spec (B.observed admin spec) := by
      rw [KindBase.adoptionBlock, text]
    simp only [Traced.calls_bind, Traced.value_bind, get, value]
    rw [needed, verdict]
    cases decision : B.adoptionBlock [] obj spec (B.observed admin spec) with
    | some block =>
      have asked : ¬(B.observeOnlyFirst = true ∧ isObserveOnly obj = true) := by
        rintro ⟨absurdity, -⟩
        rw [later] at absurdity
        cases absurdity
      exact .blocked [] block _ readOnly answered resolved decision asked
    | none =>
      cases update : B.needsUpdate [] spec (B.observed admin spec) with
      | false => exact .inSync [] _ readOnly answered resolved update (.inl decision)
      | true =>
        cases observing : isObserveOnly obj with
        | true => exact .drifted [] _ _ readOnly answered resolved observing update
        | false =>
          cases failure : (admin.define spec).err with
          | some e =>
            have result : B.EnsureCase admin obj spec _ _ := .defineFailed [] e _ readOnly answered resolved
              observing update decision failure
            simpa [failure] using result
          | none =>
            have success := (WriteAnswer.err_eq_none_iff _).mp failure
            have result : B.EnsureCase admin obj spec _ _ := .defined [] _ readOnly answered resolved
              observing update decision success
            simpa [failure] using result

end Cases

end MKurator.Controller
