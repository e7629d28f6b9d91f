import MKurator.Convergence.Parameters
import MKurator.MqRest.Clauses

/-! The DEFINE line of `status.desiredMQSC`, read back as MQSC, against the parameters of the request. -/

namespace MKurator.Convergence
open MKurator.Api MKurator.MqAdmin MKurator.MqRest MKurator.Lib.Strings MKurator.Lib.Maps MKurator.Lib.Mqsc

def isArgument : Clause → Bool
  | .word _ => false
  | .bare _ _ => true
  | .quoted _ _ => true

theorem eq_of_cons_perm_cons {first second : Clause} {rest : List Clause} (perm : (first :: rest).Perm (second :: rest)) :
    first = second := by
  have counts := perm.count_eq first
  rw [List.count_cons_self, List.count_cons] at counts
  by_contra differ
  rw [if_neg (by rwa [beq_iff_eq, eq_comm])] at counts
  omega

theorem isBareChar_of_isNumeral {c : Char} (numeral : isNumeral c = true) : isBareChar c = true := by
  by_contra special
  simp only [isBareChar, Bool.and_eq_true, bne_iff_ne, not_and_or, not_not] at special
  rcases special with (rfl | rfl) | rfl
  · exact absurd numeral (by decide)
  · exact absurd numeral (by decide)
  · exact absurd numeral (by decide)

namespace DefineSpec

def objectType : DefineSpec → String
  | .queue spec => defineQueueMQSCKeyword spec.type
  | .topic _ => "TOPIC"
  | .channel _ => "CHANNEL"

def name : DefineSpec → String
  | .queue spec => spec.name
  | .topic spec => spec.name
  | .channel spec => spec.name

theorem isKeyword_objectType (spec : DefineSpec) : IsKeyword spec.objectType.toList := by
  cases spec with
  | queue spec =>
    rw [objectType, defineQueueMQSCKeyword]
    split <;> exact ⟨by decide, by decide⟩
  | topic spec => exact (by decide : "TOPIC".toList ≠ [] ∧ "TOPIC".toList.all isKeywordChar = true)
  | channel spec => exact (by decide : "CHANNEL".toList ≠ [] ∧ "CHANNEL".toList.all isKeywordChar = true)

@[simp] theorem objectType_withAttributes (spec : DefineSpec) (attributes : StringMap) :
    (spec.withAttributes attributes).objectType = spec.objectType := by
  cases spec <;> rfl

@[simp] theorem name_withAttributes (spec : DefineSpec) (attributes : StringMap) :
    (spec.withAttributes attributes).name = spec.name := by
  cases spec <;> rfl

end DefineSpec

section Case

variable [UnicodeTables]

def paramClause (key : String) : ParamValue → Clause
  | .number n => .bare (toUpper key) (toString n)
  | .text value => .quoted (toUpper key) value

theorem toList_formatMQSCAttribute (key : String) (value : ParamValue) :
    (formatMQSCAttribute key value).toList = (paramClause key value).write := by
  cases value with
  | number n => simp [formatMQSCAttribute, paramClause, Clause.write]
  | text value => exact toList_quotedClause (toUpper key) value

theorem isArgument_paramClause (key : String) (value : ParamValue) : isArgument (paramClause key value) = true := by
  cases value <;> rfl

theorem keyword_paramClause (key : String) (value : ParamValue) : (paramClause key value).keyword = toUpper key := by
  cases value <;> rfl

theorem paramClause_inj {key : String} {first second : ParamValue} (same : paramClause key first = paramClause key second) :
    first = second := by
  cases first with
  | number m =>
    cases second with
    | number n =>
      have texts := (Clause.bare.inj same).2
      rw [toString_int_inj.mp texts]
    | text value => cases same
  | text value =>
    cases second with
    | number n => cases same
    | text other => rw [(Clause.quoted.inj same).2]

theorem wellFormed_paramClause {key : String} (formed : IsKeyword (toUpper key).toList) (value : ParamValue) :
    (paramClause key value).WellFormed := by
  cases value with
  | text value => exact formed
  | number n =>
    refine ⟨formed, ?_, ?_⟩
    · rw [toList_toString_int]
      exact List.append_ne_nil_of_right_ne_nil _ Nat.toDigits_ne_nil
    · rw [List.all_eq_true]
      intro c inside
      exact isBareChar_of_isNumeral (isNumeral_toString n c inside)

/-- The parameters as clauses, the one that replaces aside. -/
def requestClauses (params : ParamMap) : List Clause :=
  (params.entries.filter (·.1 ≠ attrReplace)).map fun entry => paramClause entry.1 entry.2

def listedClauses (params : ParamMap) : List Clause :=
  (sorted (params.keys.filter (· ≠ attrReplace))).map fun key => paramClause key ((params.lookup key).getD (.text ""))

theorem listedClauses_perm (params : ParamMap) : (listedClauses params).Perm (requestClauses params) := by
  have keys : (sorted (params.keys.filter (· ≠ attrReplace))).Perm
      ((params.entries.filter (·.1 ≠ attrReplace)).map Sigma.fst) := by
    refine (List.perm_insertionSort _ _).trans (List.Perm.of_eq ?_)
    exact List.filter_map
  refine (keys.map _).trans (List.Perm.of_eq ?_)
  rw [List.map_map]
  refine List.map_congr_left fun entry member => ?_
  have found := AList.mem_lookup_iff.mpr (List.mem_filter.mp member).1
  rw [Function.comp_apply, Option.mem_def.mp found, Option.getD_some]

theorem formatDefineObjectMQSC_writes (objectType name : String) (params : ParamMap) :
    formatDefineObjectMQSC objectType name params =
      String.ofList (write (.word "DEFINE" :: .quoted objectType name :: .word "REPLACE" :: listedClauses params)) := by
  have opened : ("DEFINE " ++ objectType ++ "('" ++ mqscQuote name ++ "')").toList =
      write [.word "DEFINE", .quoted objectType name] := by
    simp [write, Clause.write, List.intercalate, toList_mqscQuote]
  have written : (mqscActionReplace :: (sorted (params.keys.filter (· ≠ attrReplace))).map fun key =>
      formatMQSCAttribute key ((params.lookup key).getD (.text ""))).map String.toList =
      ((Clause.word "REPLACE" :: listedClauses params).map ([·])).map write := by
    rw [List.map_cons, List.map_cons, List.map_cons]
    refine congrArg₂ List.cons rfl ?_
    rw [listedClauses, List.map_map, List.map_map, List.map_map]
    refine List.map_congr_left fun key _ => ?_
    simp [toList_formatMQSCAttribute, write, List.intercalate]
  exact join_writes opened (List.cons_ne_nil _ _) written

theorem read_formatDefineObjectMQSC {objectType : String} (name : String) {params : ParamMap}
    (known : IsKeyword objectType.toList)
    (formed : ∀ key ∈ params.keys, IsKeyword (toUpper key).toList) :
    read (formatDefineObjectMQSC objectType name params) =
      some (.word "DEFINE" :: .quoted objectType name :: .word "REPLACE" :: listedClauses params) := by
  rw [formatDefineObjectMQSC_writes]
  change readFrom .blank (String.ofList _).toList = _
  rw [String.toList_ofList]
  apply read_write
  intro clause member
  rw [List.mem_cons, List.mem_cons, List.mem_cons] at member
  rcases member with rfl | rfl | rfl | listed
  · exact ⟨by decide, by decide⟩
  · exact known
  · exact ⟨by decide, by decide⟩
  · obtain ⟨key, inside, rfl⟩ := List.mem_map.mp listed
    have present : key ∈ params.keys := (List.mem_filter.mp ((List.perm_insertionSort _ _).mem_iff.mp inside)).1
    exact wellFormed_paramClause (formed key present) _

theorem value_eq_of_requestClauses_perm {first second : ParamMap} {name : String} {left right : ParamValue}
    (other : name ≠ attrReplace) (here : first.lookup name = some left) (there : second.lookup name = some right)
    (rest : ∀ key, key ≠ name → first.lookup key = second.lookup key)
    (perm : (requestClauses first).Perm (requestClauses second)) : left = right := by
  have absent : name ∉ first.erase name := by
    rw [AList.mem_erase]
    exact fun both => both.1 rfl
  have shape : ∀ (params : ParamMap) (value : ParamValue), params.lookup name = some value →
      (∀ key, key ≠ name → params.lookup key = first.lookup key) →
      (requestClauses params).Perm (paramClause name value :: requestClauses (first.erase name)) := by
    intro params value found same
    have entries : params.entries.Perm (⟨name, value⟩ :: (first.erase name).entries) := by
      rw [← AList.entries_insert_of_notMem absent]
      apply perm_entries_of_lookup_eq
      intro key
      by_cases at_name : key = name
      · rw [at_name, found, AList.lookup_insert]
      · rw [AList.lookup_insert_ne at_name, AList.lookup_erase_ne at_name, same key at_name]
    have filtered := (entries.filter (·.1 ≠ attrReplace)).map fun entry => paramClause entry.1 entry.2
    rwa [List.filter_cons, if_pos (decide_eq_true other), List.map_cons] at filtered
  have left_shape := shape first left here fun _ _ => rfl
  have right_shape := shape second right there fun key apart => (rest key apart).symm
  exact paramClause_inj (eq_of_cons_perm_cons ((left_shape.symm.trans perm).trans right_shape))

namespace DefineSpec

/-- `FormatDefine*MQSC` -/
def format : DefineSpec → Except MqError String
  | .queue spec => formatDefineQueueMQSC spec
  | .topic spec => formatDefineTopicMQSC spec
  | .channel spec => formatDefineChannelMQSC spec

def Supported : DefineSpec → Prop
  | .queue spec => validateQueueType spec.type = .ok ()
  | _ => True

theorem format_eq {spec : DefineSpec} (supported : spec.Supported) :
    spec.format = .ok (formatDefineObjectMQSC spec.objectType spec.name spec.parameters) := by
  cases spec with
  | queue spec =>
    rw [format, formatDefineQueueMQSC, supported]
    rfl
  | topic spec => rfl
  | channel spec => rfl

theorem supported_of_format {spec : DefineSpec} {line : String} (written : spec.format = .ok line) : spec.Supported := by
  cases spec with
  | queue spec =>
    obtain ⟨done, checked, -⟩ := Lib.Fallible.exists_of_bind_ok written
    exact checked
  | topic spec => exact trivial
  | channel spec => exact trivial

theorem supported_withAttributes (spec : DefineSpec) (attributes : StringMap) :
    (spec.withAttributes attributes).Supported ↔ spec.Supported := by
  cases spec <;> exact Iff.rfl

/-- Every attribute has a name that can be a keyword. -/
def Spellable (spec : DefineSpec) : Prop :=
  ∀ entry ∈ spec.attributes.entries, IsKeyword (toUpper (spec.mqwebName entry.1)).toList

theorem isKeyword_control {spec : DefineSpec} {name : String} (control : name ∈ spec.controls.map Prod.fst) :
    IsKeyword (toUpper name).toList := by
  have known : name ∈ [attrReplace, "chltype"] := by
    cases spec with
    | queue spec => exact List.mem_cons.mpr (.inl (List.mem_singleton.mp control))
    | topic spec => exact List.mem_cons.mpr (.inl (List.mem_singleton.mp control))
    | channel spec => exact control
  have plain : ∀ name ∈ [attrReplace, "chltype"], name.toList.all isPlain = true ∧
      name.toList.map Char.toUpper ≠ [] ∧ (name.toList.map Char.toUpper).all isKeywordChar = true := by decide
  obtain ⟨ascii, formed⟩ := plain name known
  rw [toUpper_of_plain name ascii, String.toList_ofList]
  exact formed

theorem isKeyword_parameters {spec : DefineSpec} (spellable : spec.Spellable) :
    ∀ name ∈ spec.parameters.keys, IsKeyword (toUpper name).toList := by
  intro name present
  have found : spec.parameters.lookup name ≠ none := by
    rw [ne_eq, AList.lookup_eq_none]
    exact not_not_intro present
  rcases parameters_cases spec found with control | ⟨entry, member, -, rfl⟩
  · exact isKeyword_control control
  · exact spellable entry member

/-- The line, from attributes in one order, says what the request, from attributes in another, asks for. -/
def Means (spec : DefineSpec) (shown sent : StringMap) : Prop :=
  ∀ line, (spec.withAttributes shown).format = .ok line →
    ∃ rest, Lib.Mqsc.read line = some (.word "DEFINE" :: .quoted spec.objectType spec.name :: rest) ∧
      (.word "REPLACE" ∈ rest ↔
        (spec.withAttributes sent).parameters.lookup attrReplace = some (.text mqscReplaceYes)) ∧
      (rest.filter isArgument).Perm (requestClauses (spec.withAttributes sent).parameters)

theorem read_format {spec : DefineSpec} (supported : spec.Supported) (spellable : spec.Spellable) :
    ∃ line, spec.format = .ok line ∧ Lib.Mqsc.read line =
      some (.word "DEFINE" :: .quoted spec.objectType spec.name :: .word "REPLACE" :: listedClauses spec.parameters) :=
  ⟨_, format_eq supported, read_formatDefineObjectMQSC _ spec.isKeyword_objectType (isKeyword_parameters spellable)⟩

theorem filter_listedClauses (params : ParamMap) :
    (Clause.word "REPLACE" :: listedClauses params).filter isArgument = listedClauses params := by
  rw [List.filter_cons, if_neg (by decide), List.filter_eq_self]
  intro clause member
  obtain ⟨key, -, rfl⟩ := List.mem_map.mp member
  exact isArgument_paramClause _ _

theorem means_spelled_iff {spec : DefineSpec} (supported : spec.Supported) {shown sent : StringMap}
    (spellable : (spec.withAttributes shown).Spellable) :
    spec.Means shown sent ↔
      (spec.withAttributes sent).parameters.lookup attrReplace = some (.text mqscReplaceYes) ∧
        (requestClauses (spec.withAttributes shown).parameters).Perm
          (requestClauses (spec.withAttributes sent).parameters) := by
  obtain ⟨line, written, spelled⟩ := read_format ((supported_withAttributes spec shown).mpr supported) spellable
  rw [objectType_withAttributes, name_withAttributes] at spelled
  constructor
  · intro means
    obtain ⟨rest, found, replaces, same⟩ := means line written
    obtain rfl := (List.cons.inj (List.cons.inj (Option.some.inj (spelled.symm.trans found))).2).2
    rw [filter_listedClauses] at same
    exact ⟨replaces.mp (List.mem_cons_self ..), (listedClauses_perm _).symm.trans same⟩
  · rintro ⟨replaced, same⟩ other again
    obtain rfl := Except.ok.inj (written.symm.trans again)
    refine ⟨_, spelled, iff_of_true (List.mem_cons_self ..) replaced, ?_⟩
    rw [filter_listedClauses]
    exact (listedClauses_perm _).trans same

theorem spellable_of_means {spec : DefineSpec} (supported : spec.Supported) {shown sent : StringMap}
    (means : spec.Means shown sent) : (spec.withAttributes sent).Spellable := by
  have written := format_eq ((supported_withAttributes spec shown).mpr supported)
  obtain ⟨rest, found, -, same⟩ := means _ written
  intro entry member
  by_cases replace : (spec.withAttributes sent).mqwebName entry.1 = attrReplace
  · rw [replace]
    exact isKeyword_control (List.mem_map_of_mem (replace_mem_controls spec))
  · obtain ⟨value, present⟩ := Option.ne_none_iff_exists'.mp (lookup_mqwebName_ne_none _ member)
    have requested : paramClause ((spec.withAttributes sent).mqwebName entry.1) value ∈
        requestClauses (spec.withAttributes sent).parameters :=
      List.mem_map.mpr ⟨⟨_, value⟩, List.mem_filter.mpr ⟨AList.mem_lookup_iff.mp present, decide_eq_true replace⟩, rfl⟩
    have clause := (List.mem_filter.mp (same.mem_iff.mpr requested)).1
    have blank : ∀ keyword ∈ Reader.blank.keyword?, IsKeyword keyword := fun _ here => nomatch here
    have formed := readFrom_keyword_formed blank found _ (List.mem_cons_of_mem _ (List.mem_cons_of_mem _ clause))
    rwa [keyword_paramClause] at formed

theorem spellable_withAttributes {spec : DefineSpec} {attributes : StringMap}
    (perm : attributes.entries.Perm spec.attributes.entries) :
    (spec.withAttributes attributes).Spellable ↔ spec.Spellable := by
  rw [Spellable, Spellable, attributes_withAttributes, mqwebName_withAttributes]
  exact forall_congr' fun entry => imp_congr_left perm.mem_iff

theorem Settled.lookup_order {spec : DefineSpec} (settled : spec.Settled) {attributes : StringMap}
    (perm : attributes.entries.Perm spec.attributes.entries) (name : String) :
    (spec.withAttributes attributes).parameters.lookup name = spec.parameters.lookup name := by
  have same : (spec.withAttributes attributes).parameters.lookup name =
      (spec.withAttributes spec.attributes).parameters.lookup name := by
    apply lookup_parameters_congr
    intro key _ own
    apply lookup_fill_perm_of_agree perm
    intro first left second right one two
    refine settled.apart first left second right (one.trans two.symm) ?_
    rwa [spec.overwritten_congr one]
  rwa [withAttributes_attributes] at same

theorem Settled.replaced {spec : DefineSpec} (settled : spec.Settled) :
    spec.parameters.lookup attrReplace = some (.text mqscReplaceYes) := by
  rw [lookup_replace]
  exact (lookup_sent_replace_iff spec).mpr settled.replaces _ (List.Perm.refl _)

theorem mqwebName_ne_replace (spec : DefineSpec) {key : String} (other : toLower key ≠ attrReplace) :
    spec.mqwebName key ≠ attrReplace := by
  cases spec with
  | queue spec => exact other
  | channel spec => exact other
  | topic spec =>
    rw [mqwebName]
    split
    · decide
    · exact other

theorem apart_of_means {spec : DefineSpec} (supported : spec.Supported) (spellable : spec.Spellable)
    {shown sent : StringMap} (perm : shown.entries.Perm spec.attributes.entries) (means : spec.Means shown sent)
    {first second : Σ _ : String, String} {rest : List (Σ _ : String, String)}
    (one_order : shown.entries = rest ++ [first, second]) (other_order : sent.entries = rest ++ [second, first])
    (same : toLower first.1 = toLower second.1) (own : ¬spec.Overwritten first.1)
    (replace : toLower first.1 ≠ attrReplace) :
    spec.desiredValue first.1 first.2 = spec.desiredValue second.1 second.2 := by
  obtain ⟨-, requests⟩ := (means_spelled_iff supported ((spellable_withAttributes perm).mpr spellable)).mp means
  have found : ∀ attributes : StringMap, (spec.withAttributes attributes).parameters.lookup (spec.mqwebName first.1) =
      (spec.sent attributes.entries).lookup (toLower first.1) := by
    intro attributes
    have here := (spec.withAttributes attributes).lookup_parameters (by rwa [overwritten_withAttributes])
    rwa [mqwebName_withAttributes, attributes_withAttributes, sent_withAttributes] at here
  have one_value : (spec.sent shown.entries).lookup (toLower first.1) = some (spec.desiredValue second.1 second.2) := by
    rw [one_order, same, List.append_cons]
    exact lookup_fill_last second
  have other_value : (spec.sent sent.entries).lookup (toLower first.1) = some (spec.desiredValue first.1 first.2) := by
    rw [other_order, List.append_cons]
    exact lookup_fill_last first
  have elsewhere : ∀ name, name ≠ spec.mqwebName first.1 →
      (spec.withAttributes shown).parameters.lookup name = (spec.withAttributes sent).parameters.lookup name := by
    intro name apart
    apply lookup_parameters_congr
    intro key named _
    have differs : toLower first.1 ≠ toLower key := fun lower => apart (named ▸ spec.mqwebName_congr lower.symm)
    rw [one_order, other_order]
    exact lookup_fill_swap differs (same ▸ differs)
  exact (value_eq_of_requestClauses_perm (spec.mqwebName_ne_replace replace) ((found shown).trans one_value)
    ((found sent).trans other_value) elsewhere requests).symm

/-- The line means the request, whatever the two orders of the attributes, exactly when the attributes are settled and
their names can be spelled. -/
theorem means_iff (spec : DefineSpec) :
    (∀ shown sent : StringMap, shown.entries.Perm spec.attributes.entries → sent.entries.Perm spec.attributes.entries →
        spec.Means shown sent) ↔
      (spec.Supported → spec.Settled ∧ spec.Spellable) := by
  constructor
  · intro every supported
    have spellable : spec.Spellable := by
      have here := spellable_of_means supported (every spec.attributes spec.attributes (.refl _) (.refl _))
      rwa [withAttributes_attributes] at here
    have replaces : ∀ entry ∈ spec.attributes.entries, toLower entry.1 = attrReplace → entry.2 = mqscReplaceYes := by
      refine (lookup_sent_replace_iff spec).mp ((forall_orders_iff spec.attributes _).mp fun sent perm => ?_)
      obtain ⟨replaced, -⟩ := (means_spelled_iff supported ((spellable_withAttributes perm).mpr spellable)).mp
        (every sent sent perm perm)
      rwa [lookup_replace, attributes_withAttributes, sent_withAttributes] at replaced
    refine ⟨⟨replaces, ?_⟩, spellable⟩
    intro first left second right same own
    by_cases replace : toLower first.1 = attrReplace
    · rw [replaces first left replace, replaces second right (same ▸ replace)]
      exact spec.desiredValue_congr same _
    · by_cases one : first = second
      · rw [one]
      · obtain ⟨rest, one_order, other_order⟩ := exists_perm_last_two left right one
        let shown : StringMap := ⟨_, (List.perm_nodupKeys one_order).mpr spec.attributes.nodupKeys⟩
        let sent : StringMap := ⟨_, (List.perm_nodupKeys other_order).mpr spec.attributes.nodupKeys⟩
        have means := every shown sent one_order other_order
        exact apart_of_means supported spellable one_order means rfl rfl same own replace
  · intro condition shown sent one_order other_order line written
    have supported := (supported_withAttributes spec shown).mp (supported_of_format written)
    obtain ⟨settled, spellable⟩ := condition supported
    refine (means_spelled_iff supported ((spellable_withAttributes one_order).mpr spellable)).mpr ⟨?_, ?_⟩ line written
    · rw [settled.lookup_order other_order]
      exact settled.replaced
    · refine ((perm_entries_of_lookup_eq fun name => ?_).filter _).map _
      rw [settled.lookup_order one_order, settled.lookup_order other_order]

end DefineSpec

end Case

def spelledQueue : MqAdmin.QueueSpec where
  name := "ORDERS.IN"
  type := .localQueue
  attributes := (∅ : StringMap).insert "put(disabled) descr" "orders"

section Cases

attribute [local instance] asciiTables

/-- The line of this queue closes it for messages; the request has one parameter with an odd name. -/
theorem spelledQueue_misread :
    (formatDefineQueueMQSC spelledQueue).toOption.bind Lib.Mqsc.read =
        some [.word "DEFINE", .quoted "QLOCAL" "ORDERS.IN", .word "REPLACE", .bare "PUT" "DISABLED",
          .quoted "DESCR" "orders"] ∧
      (defineQueueParameters spelledQueue).lookup "put(disabled) descr" = some (.text "orders") ∧
      ¬(DefineSpec.queue spelledQueue).Means spelledQueue.attributes spelledQueue.attributes := by
  refine ⟨by decide +kernel, by decide +kernel, fun means => ?_⟩
  have supported : (DefineSpec.queue spelledQueue).Supported := rfl
  have spellable := DefineSpec.spellable_of_means supported means
  have formed := spellable ⟨"put(disabled) descr", "orders"⟩ (List.mem_singleton.mpr rfl)
  exact absurd formed.2 (by decide +kernel)

end Cases

end MKurator.Convergence
