import MKurator.Convergence.Parameters
import MKurator.Validation.Rules

/-! Go walks the attribute map of a resource in any order: when the desired object does not depend on it. -/

namespace MKurator.Convergence
open MKurator.Api MKurator.MqAdmin MKurator.MqRest MKurator.Controller MKurator.Validation MKurator.Lib.Strings
open MKurator.Lib.Maps

inductive MappedResource where
  | queue (spec : Api.QueueSpec)
  | topic (spec : Api.TopicSpec)
  | channel (spec : Api.ChannelSpec)

namespace MappedResource

def attributes : MappedResource → StringMap
  | .queue spec => spec.attributes
  | .topic spec => spec.attributes
  | .channel spec => spec.attributes

def withAttributes : MappedResource → StringMap → MappedResource
  | .queue spec, attributes => .queue { spec with attributes }
  | .topic spec, attributes => .topic { spec with attributes }
  | .channel spec, attributes => .channel { spec with attributes }

theorem withAttributes_self (resource : MappedResource) : resource.withAttributes resource.attributes = resource := by
  cases resource <;> rfl

section Case

variable [UnicodeTables]

def fields : MappedResource → List TypedField
  | .queue spec => queueFields spec
  | .topic spec => topicFields spec
  | .channel spec => channelFields spec

/-- `toMQQueueSpec`, `toMQTopicSpec` and `toMQChannelSpec` -/
def desired : MappedResource → DefineSpec
  | .queue spec => .queue (toMQQueueSpec spec)
  | .topic spec => .topic (toMQTopicSpec spec)
  | .channel spec => .channel (toMQChannelSpec spec)

theorem fields_names (resource : MappedResource) : FieldNames resource.fields := by
  cases resource with
  | queue spec => exact queueFields_names spec
  | topic spec => exact topicFields_names spec
  | channel spec => exact channelFields_names spec

theorem attributes_desired (resource : MappedResource) (order : StringMap) :
    (resource.withAttributes order).desired.attributes = withFields (normalizedAttributes order) resource.fields := by
  cases resource with
  | queue spec => exact attributes_toMQQueueSpec { spec with attributes := order }
  | topic spec => exact attributes_toMQTopicSpec { spec with attributes := order }
  | channel spec => exact attributes_toMQChannelSpec { spec with attributes := order }

theorem desired_withAttributes (resource : MappedResource) (order : StringMap) :
    (resource.withAttributes order).desired =
      resource.desired.withAttributes (resource.withAttributes order).desired.attributes := by
  cases resource <;> rfl

theorem desired_normalized (resource : MappedResource) : Normalized resource.desired.attributes := by
  cases resource with
  | queue spec => exact toMQQueueSpec_normalized spec
  | topic spec => exact toMQTopicSpec_normalized spec
  | channel spec => exact toMQChannelSpec_normalized spec

/-- What is derived from a resource is the same in every order of its attributes, and typed fields win. -/
structure OrderFree (resource : MappedResource) : Prop where
  spec : ∀ order : StringMap, order.entries.Perm resource.attributes.entries →
    (resource.withAttributes order).desired =
        resource.desired.withAttributes (resource.withAttributes order).desired.attributes ∧
      Agree (resource.withAttributes order).desired.attributes resource.desired.attributes
  parameters : ∀ order : StringMap, order.entries.Perm resource.attributes.entries →
    ∀ walked : StringMap, walked.entries.Perm (resource.withAttributes order).desired.attributes.entries →
      ∀ name, (resource.desired.withAttributes walked).parameters.lookup name = resource.desired.parameters.lookup name
  drift : ∀ order : StringMap, order.entries.Perm resource.attributes.entries →
    ∀ (observed : StringMap) (checkKeys : List String),
      attributesNeedUpdate (resource.withAttributes order).desired.attributes observed checkKeys =
        attributesNeedUpdate resource.desired.attributes observed checkKeys
  typed : ∀ order : StringMap, order.entries.Perm resource.attributes.entries →
    ∀ name value, (name, some value) ∈ resource.fields →
      (resource.withAttributes order).desired.attributes.lookup name = some value

def FieldSet (resource : MappedResource) (key : String) : Prop :=
  ∃ name value, (name, some value) ∈ resource.fields ∧ normalizeAttrKey name = key

/-- Two spellings of one key have the same value, or a typed field decides. -/
def Unmixed (resource : MappedResource) : Prop :=
  ∀ first ∈ resource.attributes.entries, ∀ second ∈ resource.attributes.entries,
    normalizeAttrKey first.1 = normalizeAttrKey second.1 → first.2 = second.2 ∨ resource.FieldSet (normalizeAttrKey first.1)

theorem lookup_typed (resource : MappedResource) (order : StringMap) {name value : String}
    (member : (name, some value) ∈ resource.fields) :
    (resource.withAttributes order).desired.attributes.lookup name = some value := by
  have names := resource.fields_names
  have normal : normalizeAttrKey name = name := names.normal name (List.mem_map_of_mem member)
  have distinct : (resource.fields.map fun field => normalizeAttrKey field.1).Nodup := by
    have same : (resource.fields.map fun field => normalizeAttrKey field.1) = resource.fields.map Prod.fst :=
      List.map_congr_left fun field inside => names.normal field.1 (List.mem_map_of_mem inside)
    rw [same]
    exact names.distinct
  rw [attributes_desired, ← normal]
  exact lookup_withFields_of_set distinct member

theorem lookup_untyped (resource : MappedResource) (order : StringMap) {key : String} (free : ¬resource.FieldSet key) :
    (resource.withAttributes order).desired.attributes.lookup key =
      (fill normalizeAttrKey (fun _ value => value) order.entries ∅).lookup key := by
  rw [attributes_desired, ← normalizedAttributes_eq_fill]
  exact lookup_withFields_of_absent fun name value member same => free ⟨name, value, member, same⟩

theorem Unmixed.agree {resource : MappedResource} (unmixed : resource.Unmixed) {order : StringMap}
    (perm : order.entries.Perm resource.attributes.entries) :
    Agree (resource.withAttributes order).desired.attributes resource.desired.attributes := by
  intro key
  have itself : resource.desired = (resource.withAttributes resource.attributes).desired := by rw [withAttributes_self]
  rw [itself]
  by_cases given : resource.FieldSet key
  · obtain ⟨name, value, member, rfl⟩ := given
    rw [resource.fields_names.normal name (List.mem_map_of_mem member), resource.lookup_typed order member,
      resource.lookup_typed resource.attributes member]
  · rw [resource.lookup_untyped order given, resource.lookup_untyped resource.attributes given]
    apply lookup_fill_perm_of_agree perm
    intro first left second right one two
    refine (unmixed first left second right (one.trans two.symm)).resolve_right ?_
    rwa [one]

theorem lookup_parameters_of_agree {spec : DefineSpec} (normalized : Normalized spec.attributes) {walked : StringMap}
    (agree : Agree walked spec.attributes) (name : String) :
    (spec.withAttributes walked).parameters.lookup name = spec.parameters.lookup name := by
  have same : (spec.withAttributes walked).parameters.lookup name =
      (spec.withAttributes spec.attributes).parameters.lookup name := by
    apply spec.lookup_parameters_congr
    intro key _ _
    apply lookup_fill_perm (perm_entries_of_lookup_eq agree)
    intro first left second right lower
    have keys : first.1 = second.1 := by
      rw [← toLower_of_normal (normalized first.1 first.2 (AList.mem_lookup_iff.mpr left)), lower,
        toLower_of_normal (normalized second.1 second.2 (AList.mem_lookup_iff.mpr right))]
    have values : some first.2 = some second.2 := by
      rw [← Option.mem_def.mp (AList.mem_lookup_iff.mpr left), keys, Option.mem_def.mp (AList.mem_lookup_iff.mpr right)]
    exact Sigma.ext keys (heq_of_eq (Option.some.inj values))
  rwa [spec.withAttributes_attributes] at same

theorem attributesNeedUpdate_of_agree {first second : StringMap} (agree : Agree first second) (observed : StringMap)
    (checkKeys : List String) :
    attributesNeedUpdate first observed checkKeys = attributesNeedUpdate second observed checkKeys := by
  rw [Bool.eq_iff_iff, attributesNeedUpdate_iff, attributesNeedUpdate_iff]
  simp only [agree _]

/-- The order of the attributes makes no difference exactly when no two spellings of one key have different values, or
a typed field decides between them. -/
theorem orderFree_iff (resource : MappedResource) : resource.OrderFree ↔ resource.Unmixed := by
  constructor
  · intro free first left second right same
    by_cases given : resource.FieldSet (normalizeAttrKey first.1)
    · exact .inr given
    · have present : resource.desired.attributes.lookup (normalizeAttrKey first.1) ≠ none := by
        have found := resource.lookup_untyped resource.attributes given
        rw [withAttributes_self] at found
        rw [found]
        exact lookup_fill_ne_none left
      obtain ⟨value, found⟩ := Option.ne_none_iff_exists'.mp present
      -- in every order this value is found, so every entry of the key has it
      have each := (lookup_fill_orders_iff (normalizeAttrKey first.1) value).mp <|
        (forall_orders_iff resource.attributes fun others =>
          (fill normalizeAttrKey (fun _ value => value) others ∅).lookup (normalizeAttrKey first.1) = some value).mp
        fun order perm => by
          rw [← resource.lookup_untyped order given, (free.spec order perm).2, found]
      exact .inl ((each.1 first left rfl).trans (each.1 second right same.symm).symm)
  · intro unmixed
    refine ⟨fun order perm => ⟨resource.desired_withAttributes order, unmixed.agree perm⟩, ?_, ?_, ?_⟩
    · intro order perm walked walk name
      refine lookup_parameters_of_agree resource.desired_normalized (fun key => ?_) name
      rw [AList.perm_lookup walk, unmixed.agree perm key]
    · intro order perm observed checkKeys
      exact attributesNeedUpdate_of_agree (unmixed.agree perm) observed checkKeys
    · intro order perm name value member
      exact resource.lookup_typed order member

end Case

end MappedResource

def mixedQueue : Api.QueueSpec :=
  { (ordersQueue none).spec with attributes := ((∅ : StringMap).insert "maxdepth" "5000").insert "MAXDEPTH" "100" }

/-- The same queue as Go may walk its attributes in the next reconcile. -/
def mixedQueueAgain : Api.QueueSpec :=
  { mixedQueue with attributes := ((∅ : StringMap).insert "MAXDEPTH" "100").insert "maxdepth" "5000" }

section Cases

attribute [local instance] asciiTables

theorem mixedQueue_flaps :
    Admitted (queueRules mixedQueue) ∧ mixedQueueAgain.attributes.entries.Perm mixedQueue.attributes.entries ∧
      (toMQQueueSpec mixedQueue).attributes.lookup "maxdepth" = some "5000" ∧
      (toMQQueueSpec mixedQueueAgain).attributes.lookup "maxdepth" = some "100" := by
  exact ⟨by decide +kernel, List.Perm.swap _ _ _, by decide +kernel, by decide +kernel⟩

end Cases

end MKurator.Convergence
