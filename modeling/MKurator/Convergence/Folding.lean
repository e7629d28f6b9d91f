import MKurator.Api.ConversionAttributes
import MKurator.Controller.Desired
import MKurator.MqRest.Command

/-! The loop that moves attributes into typed fields, for each kind's table: what one turn can do, and what holds once every
entry of the map has been visited, in whatever order. -/

namespace MKurator.Convergence
open MKurator.Api MKurator.MqAdmin MKurator.MqRest MKurator.Controller MKurator.Lib.Strings MKurator.Lib.Maps

section Fields

def fieldText (fields : List TypedField) (name : String) : Option String := (fields.lookup name).join

theorem fieldText_cons (key name : String) (text : Option String) (fields : List TypedField) :
    fieldText ((key, text) :: fields) name = if name = key then text else fieldText fields name := by
  rw [fieldText, List.lookup_cons]
  by_cases here : name = key
  · rw [if_pos here, beq_iff_eq.mpr here]
    rfl
  · rw [if_neg here, beq_eq_false_iff_ne.mpr here]
    rfl

theorem fieldText_cons_congr {key name : String} {text text' : Option String} {fields fields' : List TypedField}
    (own : name = key → text = text') (later : fieldText fields name = fieldText fields' name) :
    fieldText ((key, text) :: fields) name = fieldText ((key, text') :: fields') name := by
  rw [fieldText_cons, fieldText_cons]
  split
  next here => exact own here
  next => exact later

theorem fieldText_eq_some_iff {fields : List TypedField} (distinct : (fields.map Prod.fst).Nodup) {name text : String} :
    fieldText fields name = some text ↔ (name, some text) ∈ fields := by
  induction fields with
  | nil => exact iff_of_false (fun found => nomatch found) List.not_mem_nil
  | cons field fields ih =>
    obtain ⟨key, own⟩ := field
    rw [List.map_cons, List.nodup_cons] at distinct
    rw [fieldText_cons, List.mem_cons, Prod.mk.injEq]
    by_cases here : name = key
    · subst here
      have absent : (name, some text) ∉ fields := fun later => distinct.1 (List.mem_map.mpr ⟨_, later, rfl⟩)
      rw [if_pos rfl, eq_comm]
      simp only [true_and, absent, or_false]
    · rw [if_neg here, ih distinct.2]
      simp only [here, false_and, false_or]

theorem lookup_withFields [UnicodeTables] {fields : List TypedField} (names : FieldNames fields) (attrs : StringMap)
    (name : String) : (withFields attrs fields).lookup name = (fieldText fields name).or (attrs.lookup name) := by
  have normal : ∀ key text, (key, some text) ∈ fields → normalizeAttrKey key = key :=
    fun key text member => names.normal key (List.mem_map_of_mem member)
  cases own : fieldText fields name with
  | some text =>
    have member := (fieldText_eq_some_iff names.distinct).mp own
    have distinct : (fields.map fun field => normalizeAttrKey field.1).Nodup := by
      have same : (fields.map fun field => normalizeAttrKey field.1) = fields.map Prod.fst :=
        List.map_congr_left fun field inside => names.normal field.1 (List.mem_map_of_mem inside)
      exact same ▸ names.distinct
    have found : (withFields attrs fields).lookup (normalizeAttrKey name) = some text :=
      lookup_withFields_of_set distinct member
    rwa [normal name text member] at found
  | none =>
    rw [Option.none_or]
    apply lookup_withFields_of_absent
    intro key text member same
    rw [normal key text member] at same
    subst same
    rw [(fieldText_eq_some_iff names.distinct).mpr member] at own
    cases own

end Fields

section Walk

variable {σ : Type}

/-- The first key of a fold is the name that its field is sent under. -/
def ownKey (fold : AttrFold σ) : String := fold.keys.headD ""

/-- The same text, or the same number where the attribute is one. -/
def SameText (numeric : List String) (name first second : String) : Prop :=
  first = second ∨ name ∈ numeric ∧ ∃ n, atoi first = some n ∧ atoi second = some n

/-- For a field with a number: one that does not fit into 32 bits, or a text that is no number at all. -/
def Unreadable (numeric : List String) (name value : String) : Prop := name ∈ numeric ∧ parseInt32 value = none

/-- The fold fills the field of its own key and no other, and does not touch it when it is set. -/
structure Fills (text : σ → String → Option String) (fieldSet : σ → List String → Bool) (numeric : List String)
    (fold : AttrFold σ) : Prop where
  set : ∀ spec, fieldSet spec fold.keys = (text spec (ownKey fold)).isSome
  refused : ∀ spec value, fold.apply spec value = none →
    text spec (ownKey fold) ≠ none ∨ Unreadable numeric (ownKey fold) value
  unset : ∀ spec value filled, fold.apply spec value = some filled → text spec (ownKey fold) = none
  own : ∀ spec value filled new, fold.apply spec value = some filled → text filled (ownKey fold) = some new →
    SameText numeric (ownKey fold) value new
  given : ∀ spec value filled, fold.apply spec value = some filled → value ≠ "" → text filled (ownKey fold) ≠ none
  others : ∀ spec value filled, fold.apply spec value = some filled → ∀ name, name ≠ ownKey fold →
    text filled name = text spec name

structure Promotion (σ : Type) extends FoldTable σ where
  fields : σ → List TypedField
  numeric : List String
  fills : ∀ fold ∈ folds, Fills (fun spec => fieldText (fields spec)) fieldSet numeric fold

namespace Promotion

variable (P : Promotion σ)

abbrev text (spec : σ) (name : String) : Option String := fieldText (P.fields spec) name

inductive Visited (state : σ × StringMap) (entry : Σ _ : String, String) : σ × StringMap → Prop
  | unknown (other : P.find entry.1 = none) : Visited state entry state
  | unreadable (fold : AttrFold σ) (known : P.find entry.1 = some fold)
      (unread : Unreadable P.numeric (ownKey fold) entry.2) : Visited state entry state
  | moved (fold : AttrFold σ) (known : P.find entry.1 = some fold) (spec : σ)
      (kept : ∀ name text, P.text state.1 name = some text → P.text spec name = some text)
      (came : ∀ name text, P.text spec name = some text → P.text state.1 name = some text ∨
        name = ownKey fold ∧ SameText P.numeric name entry.2 text)
      (given : entry.2 ≠ "" → P.text spec (ownKey fold) ≠ none) : Visited state entry (spec, state.2.erase entry.1)

theorem visit_spec (state : σ × StringMap) (entry : Σ _ : String, String) :
    P.Visited state entry (P.visit state entry) := by
  unfold FoldTable.visit
  split
  next other => exact .unknown other
  next fold known =>
    have fills := P.fills fold (List.mem_of_find?_eq_some known)
    split
    next spec applied =>
      refine .moved fold known spec ?_ ?_ (fills.given _ _ _ applied)
      · intro name text before
        have apart : name ≠ ownKey fold := by
          rintro rfl
          rw [Promotion.text, fills.unset _ _ _ applied] at before
          cases before
        rw [Promotion.text, fills.others _ _ _ applied name apart]
        exact before
      · intro name text now
        by_cases own : name = ownKey fold
        · subst own
          exact .inr ⟨rfl, fills.own _ _ _ _ applied now⟩
        · rw [Promotion.text, fills.others _ _ _ applied name own] at now
          exact .inl now
    next refused =>
      split
      next set =>
        rw [fills.set, Option.isSome_iff_ne_none] at set
        exact .moved fold known _ (fun _ _ before => before) (fun _ _ now => .inl now) fun _ => set
      next unset =>
        rw [fills.set, Option.not_isSome_iff_eq_none] at unset
        exact .unreadable fold known ((fills.refused _ _ refused).resolve_left fun set => set unset)

structure Walked (first : σ) (attrs : StringMap) (done : List (Σ _ : String, String)) (state : σ × StringMap) : Prop where
  inside : ∀ entry ∈ done, attrs.lookup entry.1 = some entry.2
  rest : ∀ key value, state.2.lookup key = some value → attrs.lookup key = some value
  ahead : ∀ key value, attrs.lookup key = some value → ⟨key, value⟩ ∉ done → state.2.lookup key = some value
  kept : ∀ name text, P.text first name = some text → P.text state.1 name = some text
  came : ∀ name text, P.text state.1 name = some text → P.text first name = some text ∨
    ∃ entry ∈ done, ∃ fold, P.find entry.1 = some fold ∧ name = ownKey fold ∧ SameText P.numeric name entry.2 text
  stays : ∀ entry ∈ done, state.2.lookup entry.1 = some entry.2 → ∀ fold, P.find entry.1 = some fold →
    Unreadable P.numeric (ownKey fold) entry.2
  moved : ∀ entry ∈ done, state.2.lookup entry.1 = none → ∃ fold, P.find entry.1 = some fold ∧
    (entry.2 ≠ "" → P.text state.1 (ownKey fold) ≠ none)

variable {P} {first : σ} {attrs : StringMap} {done : List (Σ _ : String, String)} {state : σ × StringMap}

theorem Walked.start (P : Promotion σ) (first : σ) (attrs : StringMap) : P.Walked first attrs [] (first, attrs) where
  inside _ visited := nomatch visited
  rest _ _ found := found
  ahead _ _ found _ := found
  kept _ _ set := set
  came _ _ set := .inl set
  stays _ visited := nomatch visited
  moved _ visited := nomatch visited

theorem Walked.leave (walked : P.Walked first attrs done state) {entry : Σ _ : String, String}
    (member : attrs.lookup entry.1 = some entry.2)
    (unread : ∀ fold, P.find entry.1 = some fold → Unreadable P.numeric (ownKey fold) entry.2) :
    P.Walked first attrs (entry :: done) state where
  inside := List.forall_mem_cons.mpr ⟨member, walked.inside⟩
  rest := walked.rest
  ahead key value found unvisited := walked.ahead key value found fun visited => unvisited (List.mem_cons_of_mem _ visited)
  kept := walked.kept
  came name text set := by
    rcases walked.came name text set with before | ⟨other, visited, source⟩
    · exact .inl before
    · exact .inr ⟨other, List.mem_cons_of_mem _ visited, source⟩
  stays := List.forall_mem_cons.mpr ⟨fun _ => unread, walked.stays⟩
  moved := by
    refine List.forall_mem_cons.mpr ⟨fun gone => ?_, walked.moved⟩
    -- only an entry that was visited before can be missing
    by_cases visited : entry ∈ done
    · exact walked.moved entry visited gone
    · have there := walked.ahead entry.1 entry.2 member visited
      rw [gone] at there
      cases there

theorem Walked.take (walked : P.Walked first attrs done state) {entry : Σ _ : String, String}
    (member : attrs.lookup entry.1 = some entry.2) {fold : AttrFold σ} (known : P.find entry.1 = some fold) {spec : σ}
    (kept : ∀ name text, P.text state.1 name = some text → P.text spec name = some text)
    (came : ∀ name text, P.text spec name = some text → P.text state.1 name = some text ∨
      name = ownKey fold ∧ SameText P.numeric name entry.2 text)
    (given : entry.2 ≠ "" → P.text spec (ownKey fold) ≠ none) :
    P.Walked first attrs (entry :: done) (spec, state.2.erase entry.1) where
  inside := List.forall_mem_cons.mpr ⟨member, walked.inside⟩
  rest key value found := walked.rest key value (lookup_erase_cases found).2
  ahead key value found unvisited := by
    rw [List.mem_cons, not_or] at unvisited
    have apart : key ≠ entry.1 := by
      rintro rfl
      rw [member] at found
      exact unvisited.1 (Sigma.ext rfl (heq_of_eq (Option.some.inj found).symm))
    exact (AList.lookup_erase_ne apart).trans (walked.ahead key value found unvisited.2)
  kept name text set := kept name text (walked.kept name text set)
  came name text set := by
    rcases came name text set with before | ⟨own, same⟩
    · rcases walked.came name text before with start | ⟨other, visited, source⟩
      · exact .inl start
      · exact .inr ⟨other, List.mem_cons_of_mem _ visited, source⟩
    · exact .inr ⟨entry, List.mem_cons_self .., fold, known, own, same⟩
  stays := by
    refine List.forall_mem_cons.mpr ⟨fun there => ?_, fun other visited there => ?_⟩
    · exact absurd rfl (lookup_erase_cases there).1
    · exact walked.stays other visited (lookup_erase_cases there).2
  moved := by
    refine List.forall_mem_cons.mpr ⟨fun _ => ⟨fold, known, given⟩, fun other visited gone => ?_⟩
    by_cases here : other.1 = entry.1
    · have value : other.2 = entry.2 := by
        have found := walked.inside other visited
        rw [here, member] at found
        exact (Option.some.inj found).symm
      rw [here, value]
      exact ⟨fold, known, given⟩
    · obtain ⟨own, found, filled⟩ := walked.moved other visited ((AList.lookup_erase_ne here).symm.trans gone)
      refine ⟨own, found, fun some_value => ?_⟩
      obtain ⟨text, set⟩ := Option.ne_none_iff_exists'.mp (filled some_value)
      rw [kept _ text set]
      exact Option.some_ne_none text

theorem Walked.visit (walked : P.Walked first attrs done state) {entry : Σ _ : String, String}
    (member : entry ∈ attrs.entries) : P.Walked first attrs (entry :: done) (P.visit state entry) := by
  have found : attrs.lookup entry.1 = some entry.2 := AList.mem_lookup_iff.mpr member
  generalize after : P.visit state entry = next
  have visited : P.Visited state entry next := after ▸ P.visit_spec state entry
  cases visited with
  | unknown other =>
    refine walked.leave found fun fold known => ?_
    rw [other] at known
    cases known
  | unreadable fold known unread =>
    refine walked.leave found fun fold' known' => ?_
    rw [known] at known'
    exact Option.some.inj known' ▸ unread
  | moved fold known spec kept came given => exact walked.take found known kept came given

theorem Walked.foldl {todo : List (Σ _ : String, String)} (walked : P.Walked first attrs done state)
    (members : ∀ entry ∈ todo, entry ∈ attrs.entries) :
    P.Walked first attrs (todo.reverse ++ done) (todo.foldl P.visit state) := by
  induction todo generalizing done state with
  | nil => exact walked
  | cons entry todo ih =>
    rw [List.forall_mem_cons] at members
    rw [List.reverse_cons, List.append_assoc]
    exact ih (walked.visit members.1) members.2

theorem walked_foldAttributes (P : Promotion σ) (first : σ) (attrs : StringMap) :
    P.Walked first attrs attrs.entries.reverse (foldAttributes P.toFoldTable first attrs) := by
  have whole := (Walked.start P first attrs).foldl fun entry member => member
  rwa [List.append_nil] at whole

end Promotion

end Walk

section Tables

variable {σ : Type} {text : σ → String → Option String} {fieldSet : σ → List String → Bool} {numeric : List String}
  {keys : List String}

theorem givenText_eq_none_iff {value : String} : givenText value = none ↔ value = "" := by
  unfold givenText
  split <;> simp_all

theorem fills_text {field : σ → String} {put : σ → String → σ}
    (read : ∀ spec, text spec (keys.headD "") = givenText (field spec))
    (wrote : ∀ spec value, field (put spec value) = value)
    (others : ∀ spec value name, name ≠ keys.headD "" → text (put spec value) name = text spec name)
    (set : ∀ spec, fieldSet spec keys = decide (field spec ≠ "")) :
    Fills text fieldSet numeric (textFold keys field put) := by
  have applied : ∀ spec value filled, (textFold keys field put).apply spec value = some filled →
      field spec = "" ∧ filled = put spec value := by
    intro spec value filled ok
    rw [textFold] at ok
    simp only [ite_not, Option.ite_none_right_eq_some, Option.some.injEq] at ok
    exact ⟨ok.1, ok.2.symm⟩
  constructor
  · intro spec
    change fieldSet spec keys = (text spec (keys.headD "")).isSome
    rw [set, read]
    unfold givenText
    split <;> simp_all
  · intro spec value refused
    rw [textFold] at refused
    simp only [ite_not, ite_eq_right_iff, reduceCtorEq, imp_false] at refused
    refine .inl fun none => refused ?_
    exact givenText_eq_none_iff.mp ((read spec).symm.trans none)
  · intro spec value filled ok
    exact (read spec).trans (givenText_eq_none_iff.mpr (applied spec value filled ok).1)
  · intro spec value filled new ok now
    rw [(applied spec value filled ok).2] at now
    have given : givenText value = some new := by
      rw [← wrote spec value]
      exact (read _).symm.trans now
    unfold givenText at given
    split at given
    · exact .inl (Option.some.inj given)
    · cases given
  · intro spec value filled ok some_value none
    rw [(applied spec value filled ok).2] at none
    apply some_value
    rw [← wrote spec value]
    exact givenText_eq_none_iff.mp ((read _).symm.trans none)
  · intro spec value filled ok name apart
    rw [(applied spec value filled ok).2]
    exact others spec value name apart

theorem fills_number {field : σ → Option Int} {put : σ → Int → σ}
    (read : ∀ spec, text spec (keys.headD "") = (field spec).map toString)
    (wrote : ∀ spec n, field (put spec n) = some n)
    (others : ∀ spec n name, name ≠ keys.headD "" → text (put spec n) name = text spec name)
    (set : ∀ spec, fieldSet spec keys = decide (field spec ≠ none)) (number : keys.headD "" ∈ numeric) :
    Fills text fieldSet numeric (numberFold keys field put) := by
  have applied : ∀ spec value filled, (numberFold keys field put).apply spec value = some filled →
      field spec = none ∧ ∃ n, parseInt32 value = some n ∧ filled = put spec n := by
    intro spec value filled ok
    rw [numberFold] at ok
    simp only [ite_not, Option.ite_none_right_eq_some, Option.map_eq_some_iff] at ok
    obtain ⟨unset, n, parsed, rfl⟩ := ok
    exact ⟨unset, n, parsed, rfl⟩
  constructor
  · intro spec
    change fieldSet spec keys = (text spec (keys.headD "")).isSome
    rw [set, read]
    cases field spec <;> rfl
  · intro spec value refused
    rw [numberFold] at refused
    simp only at refused
    split at refused
    next set =>
      refine .inl fun none => set ?_
      exact Option.map_eq_none_iff.mp ((read spec).symm.trans none)
    next => exact .inr ⟨number, Option.map_eq_none_iff.mp refused⟩
  · intro spec value filled ok
    exact (read spec).trans (by rw [(applied spec value filled ok).1]; rfl)
  · intro spec value filled new ok now
    obtain ⟨-, n, parsed, rfl⟩ := applied spec value filled ok
    have given : some (toString n) = some new := by
      rw [← now]
      exact (congrArg (Option.map toString) (wrote spec n)).symm.trans (read _).symm
    have value_reads := atoi_of_parseInt32 parsed
    refine .inr ⟨number, n, value_reads, ?_⟩
    rw [← Option.some.inj given, atoi_toString, if_pos (atoi_range value_reads)]
  · intro spec value filled ok _ none
    obtain ⟨-, n, -, rfl⟩ := applied spec value filled ok
    have given := (read (put spec n)).symm.trans none
    rw [wrote] at given
    cases given
  · intro spec value filled ok name apart
    obtain ⟨-, n, -, rfl⟩ := applied spec value filled ok
    exact others spec n name apart

def typedQueueFields (spec : TypedQueue) : List TypedField :=
  [("maxdepth", spec.maxDepth.map toString), ("descr", givenText spec.description),
    ("defpsist", givenText spec.defPersistence), ("get", givenText spec.get), ("put", givenText spec.put),
    ("targq", givenText spec.targetQueue), ("xmitq", givenText spec.xmitQueue),
    ("rqmname", givenText spec.remoteQueueManager)]

theorem queueFolds_fill : ∀ fold ∈ queueFolds,
    Fills (fun spec => fieldText (typedQueueFields spec)) typedQueueFieldSet queueNumericParameters fold := by
  simp only [queueFolds, List.forall_mem_cons]
  refine ⟨?_, ?_, ?_, ?_, ?_, ?_, ?_, ?_, nofun⟩
  all_goals
    first
    | refine fills_text (fun _ => rfl) (fun _ _ => rfl) (fun spec value name apart => ?_) fun spec => ?_
    | refine fills_number (fun _ => rfl) (fun _ _ => rfl) (fun spec value name apart => ?_) (fun spec => ?_) (by decide)
    · simp only [typedQueueFields]
      repeat' apply fieldText_cons_congr
      all_goals first | exact fun own => absurd own apart | exact fun _ => rfl | rfl
    · simp [typedQueueFieldSet]

def typedTopicFields (spec : TypedTopic) : List TypedField :=
  [("topstr", givenText spec.topicString), ("descr", givenText spec.description), ("pub", givenText spec.publish),
    ("sub", givenText spec.subscribe), ("defpsist", givenText spec.defPersistence),
    ("pubscope", givenText spec.publishScope), ("subscope", givenText spec.subscribeScope)]

theorem topicFolds_fill : ∀ fold ∈ topicFolds,
    Fills (fun spec => fieldText (typedTopicFields spec)) typedTopicFieldSet [] fold := by
  simp only [topicFolds, List.forall_mem_cons]
  refine ⟨?_, ?_, ?_, ?_, ?_, ?_, ?_, nofun⟩
  all_goals
    refine fills_text (fun _ => rfl) (fun _ _ => rfl) (fun spec value name apart => ?_) fun spec => ?_
    · simp only [typedTopicFields]
      repeat' apply fieldText_cons_congr
      all_goals first | exact fun own => absurd own apart | exact fun _ => rfl | rfl
    · simp [typedTopicFieldSet]

def typedChannelFields (spec : TypedChannel) : List TypedField :=
  [("descr", givenText spec.description), ("maxmsgl", spec.maxMsgLength.map toString),
    ("trptype", givenText spec.transportType), ("sharecnv", spec.shareConv.map toString),
    ("mcauser", givenText spec.mcaUser), ("maxinst", spec.maxInstances.map toString),
    ("maxinstc", spec.maxInstancesClient.map toString), ("sslciph", givenText spec.sslCipherSpec),
    ("sslcauth", givenText spec.sslClientAuth), ("conname", givenText spec.connName), ("xmitq", givenText spec.xmitQueue)]

theorem channelFolds_fill : ∀ fold ∈ channelFolds,
    Fills (fun spec => fieldText (typedChannelFields spec)) typedChannelFieldSet channelNumericParameters fold := by
  simp only [channelFolds, List.forall_mem_cons]
  refine ⟨?_, ?_, ?_, ?_, ?_, ?_, ?_, ?_, ?_, ?_, ?_, nofun⟩
  all_goals
    first
    | refine fills_text (fun _ => rfl) (fun _ _ => rfl) (fun spec value name apart => ?_) fun spec => ?_
    | refine fills_number (fun _ => rfl) (fun _ _ => rfl) (fun spec value name apart => ?_) (fun spec => ?_) (by decide)
    · simp only [typedChannelFields]
      repeat' apply fieldText_cons_congr
      all_goals first | exact fun own => absurd own apart | exact fun _ => rfl | rfl
    · simp [typedChannelFieldSet]

end Tables

section Kinds

theorem find_ne_none_iff {σ : Type} (table : FoldTable σ) (key : String) :
    table.find key ≠ none ↔ table.normalize key ∈ table.folds.flatMap AttrFold.keys := by
  rw [FoldTable.find, Option.ne_none_iff_isSome, List.find?_isSome, List.mem_flatMap]
  simp only [attrKeyMatches, List.any_eq_true, decide_eq_true_eq, exists_eq_right']

theorem lookup_ne_none_iff {table : List (String × String)} {key : String} :
    table.lookup key ≠ none ↔ key ∈ table.map Prod.fst := by
  rw [ne_eq, List.lookup_eq_none_iff, List.mem_map]
  push Not
  simp only [bne_iff_ne, ne_eq, Decidable.not_not]
  exact ⟨fun ⟨entry, member, same⟩ => ⟨entry, member, same.symm⟩, fun ⟨entry, member, same⟩ => ⟨entry, member, same.symm⟩⟩

theorem mem_keys_of_find {σ : Type} {table : FoldTable σ} {key : String} {fold : AttrFold σ}
    (known : table.find key = some fold) : fold ∈ table.folds ∧ table.normalize key ∈ fold.keys := by
  refine ⟨List.mem_of_find?_eq_some known, ?_⟩
  have matched := List.find?_some known
  simpa only [attrKeyMatches, List.any_eq_true, decide_eq_true_eq, exists_eq_right'] using matched

theorem ite_foldAttributes {σ : Type} (table : FoldTable σ) (spec : σ) (attrs : StringMap) :
    (if attrs.entries.length = 0 then (spec, attrs) else foldAttributes table spec attrs) =
      foldAttributes table spec attrs := by
  split
  next empty => rw [foldAttributes, List.length_eq_zero_iff.mp empty, List.foldl_nil]
  next => rfl

variable [UnicodeTables]

def queuePromotion : Promotion TypedQueue := ⟨queueTable, typedQueueFields, queueNumericParameters, queueFolds_fill⟩

def topicPromotion : Promotion TypedTopic := ⟨topicTable, typedTopicFields, [], topicFolds_fill⟩

def channelPromotion : Promotion TypedChannel :=
  ⟨channelTable, typedChannelFields, channelNumericParameters, channelFolds_fill⟩

theorem walked_queue (spec : TypedQueue) (attrs : StringMap) :
    queuePromotion.Walked spec attrs attrs.entries.reverse (foldQueueAttributesToTyped spec attrs) := by
  rw [foldQueueAttributesToTyped, ite_foldAttributes]
  exact queuePromotion.walked_foldAttributes spec attrs

theorem walked_topic (spec : TypedTopic) (attrs : StringMap) :
    topicPromotion.Walked spec attrs attrs.entries.reverse (foldTopicAttributesToTyped spec attrs) := by
  rw [foldTopicAttributesToTyped, ite_foldAttributes]
  exact topicPromotion.walked_foldAttributes spec attrs

theorem walked_channel (spec : TypedChannel) (attrs : StringMap) :
    channelPromotion.Walked spec attrs attrs.entries.reverse (foldChannelAttributesToTyped spec attrs) := by
  rw [foldChannelAttributesToTyped, ite_foldAttributes]
  exact channelPromotion.walked_foldAttributes spec attrs

end Kinds

end MKurator.Convergence
