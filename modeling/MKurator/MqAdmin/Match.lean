import MKurator.Lib.Decimal
import MKurator.MqAdmin.Admin

/-! Drift detection: which attribute values, CHLAUTH fields and authority lists count as equal. -/

namespace MKurator.MqAdmin
open MKurator.Api MKurator.Lib.Strings

def caseInsensitiveAttrKeys : List String :=
  ["pub", "sub", "get", "put", "defpsist", "trptype", "share", "defopts", "usage", "sslcauth"]

def numericAttrKeys : List String :=
  ["maxdepth", "maxmsglen", "maxmsgl", "sharecnv", "maxinst", "maxinstc", "bothresh"]

structure AttributeDrift where
  key : String
  desired : String
  observed : String
  deriving DecidableEq, Repr

def normalizeNumericString (s : String) : String :=
  let trimmed := trimSpace s
  if trimmed = "" then ""
  else match atoi trimmed with
    | some n => toString n
    | none => trimmed

section Case

variable [UnicodeTables]

def normalizeAttrKey (key : String) : String :=
  let lower := toLower key
  if lower = "topicstr" then "topstr" else lower

def attributeValueMatches (key desired observed : String) : Bool :=
  let key := normalizeAttrKey key
  if key ∈ caseInsensitiveAttrKeys then equalFold (trimSpace desired) (trimSpace observed)
  else if key ∈ numericAttrKeys then normalizeNumericString desired == normalizeNumericString observed
  else trimSpace desired == trimSpace observed

def attributeDriftsForKeys (desired observed : StringMap) (checkKeys : List String) : List AttributeDrift :=
  let allowed := checkKeys.map normalizeAttrKey
  desired.entries.filterMap fun ⟨k, v⟩ =>
    let key := normalizeAttrKey k
    if key ∉ allowed then none
    else
      let obs := observed.get key
      if attributeValueMatches key v obs then none
      else some ⟨key, v, obs⟩

def attributesNeedUpdate (desired observed : StringMap) (checkKeys : List String) : Bool :=
  decide (0 < (attributeDriftsForKeys desired observed checkKeys).length)

def formatAttributeDriftMessage (drifts : List AttributeDrift) : String :=
  if drifts = [] then ""
  else "attribute drift: " ++ join (drifts.map fun d =>
    d.key ++ ": desired " ++ quote d.desired ++ " observed " ++ quote d.observed) "; "

def fieldDiffers (desired observed : String) : Bool :=
  !equalFold (trimSpace desired) (trimSpace observed)

/-- A field that the operator manages only when the spec gives it a value. -/
def managedFieldDiffers (desired observed : String) : Bool :=
  trimSpace desired != "" && fieldDiffers desired observed

/-- `ChannelAuthNeedsUpdate`, past its check for a missing record. -/
def channelAuthNeedsUpdate (desired : ChannelAuthSpec) (observed : ChannelAuthState) : Bool :=
  fieldDiffers desired.address observed.address ||
  fieldDiffers desired.userList observed.userList ||
  fieldDiffers desired.clientUser observed.clientUser ||
  fieldDiffers desired.sslPeerName observed.sslPeerName ||
  fieldDiffers desired.remoteQueueManager observed.remoteQueueManager ||
  managedFieldDiffers desired.mcaUser observed.mcaUser ||
  managedFieldDiffers desired.userSource observed.userSource ||
  managedFieldDiffers desired.checkClient observed.checkClient ||
  (trimSpace observed.description != "" && trimSpace desired.description != trimSpace observed.description)

def normalizeAuthoritySet (authorities : List String) : List String :=
  sorted ((authorities.map fun authority => toUpper (trimSpace authority)).filter (· ≠ ""))

/-- The index loop of `authoritySetsEqual`; `none` is an index out of range. -/
def sameEntries : List String → List String → Option Bool
  | [], _ => some true
  | x :: xs, y :: ys => if x ≠ y then some false else sameEntries xs ys
  | _ :: _, [] => none

def authoritySetsEqual (a b : List String) : Option Bool :=
  if a.length ≠ b.length then some false
  else sameEntries (normalizeAuthoritySet a) (normalizeAuthoritySet b)

end Case

theorem sameEntries_eq_some (xs ys : List String) (bound : xs.length ≤ ys.length) :
    sameEntries xs ys = some (xs.isPrefixOf ys) := by
  induction xs generalizing ys with
  | nil => rfl
  | cons x xs ih =>
    cases ys with
    | nil => simp at bound
    | cons y ys =>
      rw [sameEntries]
      by_cases same : x = y
      · rw [if_neg (not_not_intro same), ih ys (by simpa using bound), List.isPrefixOf, beq_iff_eq.mpr same,
          Bool.true_and]
      · rw [if_pos same, List.isPrefixOf, beq_eq_false_iff_ne.mpr same, Bool.false_and]

theorem normalizeNumericString_of_atoi {s : String} {n : Int} (read : atoi s = some n) :
    normalizeNumericString s = toString n := by
  obtain ⟨trimmed, some_text⟩ := trimSpace_of_atoi read
  rw [normalizeNumericString]
  simp only [trimmed, read]
  rw [if_neg some_text]

theorem normalizeNumericString_trimSpace (s : String) :
    normalizeNumericString (trimSpace s) = normalizeNumericString s := by
  have again : trimSpace (trimSpace s) = trimSpace s := trimBy_trimBy isSpace s
  rw [normalizeNumericString, again]
  rfl

theorem numericAttrKeys_not_caseInsensitive : ∀ key ∈ numericAttrKeys, key ∉ caseInsensitiveAttrKeys := by decide

theorem normalizeNumericString_toString (n : Int) : normalizeNumericString (toString n) = toString n := by
  cases read : atoi (toString n) with
  | some m =>
    rw [normalizeNumericString_of_atoi read]
    rw [atoi_toString] at read
    split at read
    · cases read
      rfl
    · cases read
  | none =>
    have trimmed : trimSpace (toString n) = toString n :=
      trimBy_of_none isSpace _ fun c member => isSpace_of_isNumeral (isNumeral_toString n c member)
    have filled : toString n ≠ "" := by
      intro blank
      have digits := congrArg String.toList blank
      rw [toList_toString_int, String.toList_empty, List.append_eq_nil_iff] at digits
      exact Nat.toDigits_ne_nil digits.2
    rw [normalizeNumericString]
    simp only [trimmed, read]
    rw [if_neg filled]

theorem mem_normalizeNumericString {s : String} {c : Char} (member : c ∈ s.toList) (blank : isSpace c = false)
    (numeral : isNumeral c = false) : c ∈ (normalizeNumericString s).toList := by
  have kept : c ∈ (trimSpace s).toList := mem_trimBy member blank
  have filled : trimSpace s ≠ "" := by
    intro none
    rw [none] at kept
    cases kept
  have unread : atoi (trimSpace s) = none := by
    cases read : atoi (trimSpace s) with
    | none => rfl
    | some n =>
      have digits := isNumeral_of_atoi read c kept
      rw [numeral] at digits
      cases digits
  rw [normalizeNumericString]
  simp only [unread]
  rw [if_neg filled]
  exact kept

section Bounds

variable [UnicodeTables]

theorem length_normalizeAuthoritySet_le (authorities : List String) :
    (normalizeAuthoritySet authorities).length ≤ authorities.length := by
  rw [normalizeAuthoritySet, sorted, List.length_insertionSort]
  exact (List.length_filter_le _ _).trans (List.length_map _).le

theorem toUpper_eq_empty_iff (s : String) : toUpper s = "" ↔ s = "" :=
  ofList_map_eq_empty_iff _ s

theorem normalizeAuthoritySet_of_nonblank (authorities : List String)
    (nonblank : ∀ authority ∈ authorities, trimSpace authority ≠ "") :
    normalizeAuthoritySet authorities = sorted (authorities.map fun authority => toUpper (trimSpace authority)) := by
  rw [normalizeAuthoritySet, List.filter_eq_self.mpr]
  intro text member
  obtain ⟨authority, listed, rfl⟩ := List.mem_map.mp member
  exact decide_eq_true (mt (toUpper_eq_empty_iff _).mp (nonblank authority listed))

theorem length_normalizeAuthoritySet (authorities : List String)
    (nonblank : ∀ authority ∈ authorities, trimSpace authority ≠ "") :
    (normalizeAuthoritySet authorities).length = authorities.length := by
  rw [normalizeAuthoritySet_of_nonblank authorities nonblank, sorted, List.length_insertionSort, List.length_map]

theorem authoritySetsEqual_observed (desired : List String) (observed : AuthorityState) :
    authoritySetsEqual desired observed.authorities =
      some (decide (desired.length = observed.authorities.length) &&
        (normalizeAuthoritySet desired).isPrefixOf (normalizeAuthoritySet observed.authorities)) := by
  rw [authoritySetsEqual]
  by_cases sizes : desired.length = observed.authorities.length
  · rw [if_neg (not_not_intro sizes), decide_eq_true sizes, Bool.true_and, sameEntries_eq_some]
    rw [length_normalizeAuthoritySet _ observed.nonblank, ← sizes]
    exact length_normalizeAuthoritySet_le desired
  · rw [if_pos sizes, decide_eq_false sizes, Bool.false_and]

/-- The authorities that a list stands for: trimmed, in upper case, without the blank ones. -/
def Denotes (authorities : List String) (authority : String) : Prop :=
  authority ≠ "" ∧ ∃ entry ∈ authorities, toUpper (trimSpace entry) = authority

def SameAuthorities (a b : List String) : Prop := ∀ authority, Denotes a authority ↔ Denotes b authority

theorem mem_normalizeAuthoritySet_iff (authorities : List String) (authority : String) :
    authority ∈ normalizeAuthoritySet authorities ↔ Denotes authorities authority := by
  rw [normalizeAuthoritySet, sorted, List.mem_insertionSort, List.mem_filter, List.mem_map, decide_eq_true_eq]
  exact and_comm

/-- How often a list gives an authority, in whatever case and between whatever blanks; of "" it gives the blank entries. -/
def timesNamed (authorities : List String) (authority : String) : Nat :=
  authorities.countP fun entry => toUpper (trimSpace entry) = authority

def EvenlyRepeated (a b : List String) : Prop :=
  ∀ authority, 0 < timesNamed a authority → 0 < timesNamed b authority → timesNamed a authority = timesNamed b authority

theorem timesNamed_eq_count (authorities : List String) (authority : String) :
    timesNamed authorities authority = (authorities.map fun entry => toUpper (trimSpace entry)).count authority := by
  rw [timesNamed, List.count, List.countP_map]
  refine List.countP_congr fun entry _ => ?_
  simp

theorem timesNamed_pos_iff (authorities : List String) {authority : String} (filled : authority ≠ "") :
    0 < timesNamed authorities authority ↔ Denotes authorities authority := by
  rw [timesNamed, List.countP_pos_iff, Denotes, and_iff_right filled]
  simp only [decide_eq_true_eq]

theorem count_normalizeAuthoritySet (authorities : List String) {authority : String} (filled : authority ≠ "") :
    (normalizeAuthoritySet authorities).count authority = timesNamed authorities authority := by
  rw [normalizeAuthoritySet, sorted, (List.perm_insertionSort _ _).count_eq, List.count_filter (by simpa using filled),
    timesNamed_eq_count]

theorem length_eq_normalized_add_blanks (authorities : List String) :
    authorities.length = (normalizeAuthoritySet authorities).length + timesNamed authorities "" := by
  have kept : (normalizeAuthoritySet authorities).length =
      authorities.countP fun entry => ¬decide (toUpper (trimSpace entry) = "") = true := by
    rw [normalizeAuthoritySet, sorted, List.length_insertionSort, ← List.countP_eq_length_filter, List.countP_map]
    refine List.countP_congr fun entry _ => ?_
    simp
  have split := List.length_eq_countP_add_countP (fun entry => decide (toUpper (trimSpace entry) = "")) (l := authorities)
  rw [kept, timesNamed]
  omega

theorem normalizeAuthoritySet_eq_of_same {a b : List String} (same : SameAuthorities a b) (even : EvenlyRepeated a b) :
    normalizeAuthoritySet a = normalizeAuthoritySet b := by
  have counts : (normalizeAuthoritySet a).Perm (normalizeAuthoritySet b) := by
    refine List.perm_iff_count.mpr fun authority => ?_
    by_cases named : Denotes a authority
    · have filled := named.1
      have named' := (same authority).mp named
      rw [count_normalizeAuthoritySet a filled, count_normalizeAuthoritySet b filled]
      exact even authority ((timesNamed_pos_iff a filled).mpr named) ((timesNamed_pos_iff b filled).mpr named')
    · have unnamed := mt (same authority).mpr named
      rw [List.count_eq_zero.mpr (mt (mem_normalizeAuthoritySet_iff a authority).mp named),
        List.count_eq_zero.mpr (mt (mem_normalizeAuthoritySet_iff b authority).mp unnamed)]
  refine (sorted_eq_iff _ _).mpr ?_
  exact (List.perm_insertionSort _ _).symm.trans (counts.trans (List.perm_insertionSort _ _))

theorem authoritySetsEqual_of_blanks {a b : List String} (blanks : timesNamed a "" = timesNamed b "") :
    authoritySetsEqual a b = some (normalizeAuthoritySet a == normalizeAuthoritySet b) := by
  have left := length_eq_normalized_add_blanks a
  have right := length_eq_normalized_add_blanks b
  rw [authoritySetsEqual]
  by_cases sizes : a.length = b.length
  · have level : (normalizeAuthoritySet a).length = (normalizeAuthoritySet b).length := by omega
    rw [if_neg (not_not_intro sizes), sameEntries_eq_some _ _ level.le]
    refine congrArg some (Bool.eq_iff_iff.mpr ?_)
    rw [List.isPrefixOf_iff_prefix, beq_iff_eq]
    exact ⟨fun start => start.eq_of_length level, fun same => same ▸ List.prefix_rfl⟩
  · rw [if_pos sizes]
    refine congrArg some (beq_eq_false_iff_ne.mpr fun same => sizes ?_).symm
    rw [left, right, same, blanks]

/-- Lists with equally many blank entries, in which a shared authority is repeated equally often, are compared as the
sets they stand for. -/
theorem authoritySetsEqual_decides (a b : List String) (blanks : timesNamed a "" = timesNamed b "")
    (even : EvenlyRepeated a b) :
    ∃ equal, authoritySetsEqual a b = some equal ∧ (equal = true ↔ SameAuthorities a b) := by
  refine ⟨_, authoritySetsEqual_of_blanks blanks, ?_⟩
  rw [beq_iff_eq]
  refine ⟨fun same authority => ?_, fun same => normalizeAuthoritySet_eq_of_same same even⟩
  rw [← mem_normalizeAuthoritySet_iff, ← mem_normalizeAuthoritySet_iff, same]

/-- Of two lists for one set, equally blank, only those that repeat alike are found equal. -/
theorem evenlyRepeated_of_equal {a b : List String} (blanks : timesNamed a "" = timesNamed b "")
    (equal : authoritySetsEqual a b = some true) : EvenlyRepeated a b := by
  rw [authoritySetsEqual_of_blanks blanks, Option.some.injEq, beq_iff_eq] at equal
  intro authority _ _
  by_cases filled : authority = ""
  · rw [filled, blanks]
  · rw [← count_normalizeAuthoritySet a filled, ← count_normalizeAuthoritySet b filled, equal]

/-- `AuthorityNeedsUpdate`, past its check for a missing record. -/
def authorityNeedsUpdate (desired : AuthoritySpec) (observed : AuthorityState) : Bool :=
  !(authoritySetsEqual desired.authorities observed.authorities).get
    (by rw [authoritySetsEqual_observed]; rfl)

theorem authorityNeedsUpdate_eq_false_iff (desired : AuthoritySpec) (observed : AuthorityState)
    (nonblank : ∀ authority ∈ desired.authorities, trimSpace authority ≠ "") :
    authorityNeedsUpdate desired observed = false ↔
      (desired.authorities.map fun authority => toUpper (trimSpace authority)).Perm
        (observed.authorities.map fun authority => toUpper (trimSpace authority)) := by
  have compared : authorityNeedsUpdate desired observed =
      !(decide (desired.authorities.length = observed.authorities.length) &&
        (normalizeAuthoritySet desired.authorities).isPrefixOf (normalizeAuthoritySet observed.authorities)) := by
    simp only [authorityNeedsUpdate, authoritySetsEqual_observed, Option.get_some]
  have sizes := length_normalizeAuthoritySet desired.authorities nonblank
  have sizes' := length_normalizeAuthoritySet observed.authorities observed.nonblank
  rw [compared, Bool.not_eq_false', Bool.and_eq_true, decide_eq_true_eq, List.isPrefixOf_iff_prefix, ← sorted_eq_iff,
    ← normalizeAuthoritySet_of_nonblank _ nonblank, ← normalizeAuthoritySet_of_nonblank _ observed.nonblank]
  constructor
  · rintro ⟨lengths, start⟩
    exact start.eq_of_length (by omega)
  · intro same
    rw [same] at sizes
    exact ⟨by omega, same ▸ List.prefix_rfl⟩

theorem attributesNeedUpdate_iff (desired observed : StringMap) (checkKeys : List String) :
    attributesNeedUpdate desired observed checkKeys = true ↔
      ∃ key value, desired.lookup key = some value ∧
        normalizeAttrKey key ∈ checkKeys.map normalizeAttrKey ∧
        attributeValueMatches (normalizeAttrKey key) value (observed.get (normalizeAttrKey key)) = false := by
  rw [attributesNeedUpdate, decide_eq_true_eq, List.length_pos_iff_exists_mem]
  constructor
  · rintro ⟨drift, member⟩
    obtain ⟨⟨key, value⟩, entry, found⟩ := List.mem_filterMap.mp member
    refine ⟨key, value, AList.mem_lookup_iff.mpr entry, ?_⟩
    simp only at found
    split at found
    · cases found
    next allowed =>
      split at found
      · cases found
      next differs => exact ⟨not_not.mp allowed, Bool.not_eq_true _ ▸ differs⟩
  · rintro ⟨key, value, entry, allowed, differs⟩
    refine ⟨⟨normalizeAttrKey key, value, observed.get (normalizeAttrKey key)⟩,
      List.mem_filterMap.mpr ⟨⟨key, value⟩, AList.mem_lookup_iff.mp entry, ?_⟩⟩
    simp only
    rw [if_neg (not_not_intro allowed), if_neg (by rw [differs]; exact Bool.false_ne_true)]

theorem attributeDriftsForKeys_eq_nil_iff (desired observed : StringMap) (checkKeys : List String) :
    attributeDriftsForKeys desired observed checkKeys = [] ↔
      ∀ key value, desired.lookup key = some value → normalizeAttrKey key ∈ checkKeys.map normalizeAttrKey →
        attributeValueMatches (normalizeAttrKey key) value (observed.get (normalizeAttrKey key)) = true := by
  have drifts := attributesNeedUpdate_iff desired observed checkKeys
  rw [attributesNeedUpdate, decide_eq_true_eq, List.length_pos_iff] at drifts
  constructor
  · intro none key value entry allowed
    by_contra differs
    exact drifts.mpr ⟨key, value, entry, allowed, Bool.not_eq_true _ ▸ differs⟩ none
  · intro same
    by_contra some_drift
    obtain ⟨key, value, entry, allowed, differs⟩ := drifts.mp some_drift
    rw [same key value entry allowed] at differs
    cases differs

theorem normalizeAttrKey_cases (key : String) :
    (toLower key = "topicstr" ∧ normalizeAttrKey key = "topstr") ∨
      (toLower key ≠ "topicstr" ∧ normalizeAttrKey key = toLower key) := by
  unfold normalizeAttrKey
  by_cases renamed : toLower key = "topicstr"
  · exact .inl ⟨renamed, if_pos renamed⟩
  · exact .inr ⟨renamed, if_neg renamed⟩

theorem normalizeAttrKey_of_lower {key : String} (lower : toLower key = key) (other : key ≠ "topicstr") :
    normalizeAttrKey key = key := by
  rcases normalizeAttrKey_cases key with ⟨renamed, -⟩ | ⟨-, same⟩
  · exact absurd (lower.symm.trans renamed) other
  · rw [same, lower]

theorem normalizeAttrKey_literal {key : String} (plain : key.toList.all isPlain = true)
    (lower : String.ofList (key.toList.map Char.toLower) = key) (other : key ≠ "topicstr") : normalizeAttrKey key = key :=
  normalizeAttrKey_of_lower ((toLower_of_plain key plain).trans lower) other

theorem toLower_topstr : toLower "topstr" = "topstr" := toLower_of_plain _ (by decide)

theorem toLower_normalizeAttrKey (key : String) : toLower (normalizeAttrKey key) = normalizeAttrKey key := by
  rcases normalizeAttrKey_cases key with ⟨-, same⟩ | ⟨-, same⟩
  · rw [same, toLower_topstr]
  · rw [same, toLower_toLower]

theorem normalizeAttrKey_normalizeAttrKey (key : String) :
    normalizeAttrKey (normalizeAttrKey key) = normalizeAttrKey key := by
  rcases normalizeAttrKey_cases (normalizeAttrKey key) with ⟨renamed, -⟩ | ⟨-, same⟩
  · rw [toLower_normalizeAttrKey] at renamed
    rcases normalizeAttrKey_cases key with ⟨-, topstr⟩ | ⟨other, lower⟩
    · rw [topstr] at renamed
      exact absurd renamed (by decide)
    · exact absurd (lower.symm.trans renamed) other
  · rw [same, toLower_normalizeAttrKey]

def valueForm (key value : String) : List Char :=
  if normalizeAttrKey key ∈ caseInsensitiveAttrKeys then (trimSpace value).toList.map UnicodeTables.fold
  else if normalizeAttrKey key ∈ numericAttrKeys then (normalizeNumericString value).toList
  else (trimSpace value).toList

theorem attributeValueMatches_iff (key desired observed : String) :
    attributeValueMatches key desired observed = true ↔ valueForm key desired = valueForm key observed := by
  unfold attributeValueMatches valueForm equalFold
  simp only
  split
  · exact beq_iff_eq
  · split
    · rw [beq_iff_eq, String.toList_inj]
    · rw [beq_iff_eq, String.toList_inj]

theorem attributeValueMatches_self (key value : String) : attributeValueMatches key value value = true :=
  (attributeValueMatches_iff key value value).mpr rfl

theorem attributeValueMatches_equivalence (key : String) :
    Equivalence fun desired observed => attributeValueMatches key desired observed = true where
  refl value := attributeValueMatches_self key value
  symm {desired observed} same := by
    rw [attributeValueMatches_iff] at same ⊢
    exact same.symm
  trans {first second third} same again := by
    rw [attributeValueMatches_iff] at same again ⊢
    exact same.trans again

theorem attributeValueMatches_of_normalizeAttrKey {first second : String}
    (same : normalizeAttrKey first = normalizeAttrKey second) :
    attributeValueMatches first = attributeValueMatches second := by
  funext desired observed
  unfold attributeValueMatches
  rw [same]

theorem attributeValueMatches_of_numeric {key : String} (numeric : normalizeAttrKey key ∈ numericAttrKeys)
    (desired observed : String) :
    attributeValueMatches key desired observed = true ↔
      normalizeNumericString desired = normalizeNumericString observed := by
  have exact_case := numericAttrKeys_not_caseInsensitive _ numeric
  unfold attributeValueMatches
  simp only [if_neg exact_case, if_pos numeric, beq_iff_eq]

theorem attributeValueMatches_iff_of_atoi {key desired observed : String} {m n : Int}
    (numeric : normalizeAttrKey key ∈ numericAttrKeys) (wanted : atoi (trimSpace desired) = some m)
    (seen : atoi (trimSpace observed) = some n) : attributeValueMatches key desired observed = true ↔ m = n := by
  rw [attributeValueMatches_of_numeric numeric, ← normalizeNumericString_trimSpace desired,
    ← normalizeNumericString_trimSpace observed, normalizeNumericString_of_atoi wanted,
    normalizeNumericString_of_atoi seen]
  exact toString_int_inj

/-- Matching is an equivalence of values for each key, keys count up to their normal form, which is final, and counters
match as the numbers they denote. -/
theorem attribute_matching_laws :
    (∀ key, Equivalence fun desired observed => attributeValueMatches key desired observed = true) ∧
      (∀ first second, normalizeAttrKey first = normalizeAttrKey second →
        attributeValueMatches first = attributeValueMatches second) ∧
      (∀ key, normalizeAttrKey (normalizeAttrKey key) = normalizeAttrKey key) ∧
      ∀ key desired observed m n, normalizeAttrKey key ∈ numericAttrKeys → atoi (trimSpace desired) = some m →
        atoi (trimSpace observed) = some n → (attributeValueMatches key desired observed = true ↔ m = n) := by
  refine ⟨attributeValueMatches_equivalence, ?_, normalizeAttrKey_normalizeAttrKey, ?_⟩
  · intro first second same
    exact attributeValueMatches_of_normalizeAttrKey same
  · intro key desired observed m n numeric wanted seen
    exact attributeValueMatches_iff_of_atoi numeric wanted seen

theorem exists_mismatch (key value : String) : ∃ other, attributeValueMatches key value other = false := by
  by_contra all
  have matches_all : ∀ other, valueForm key value = valueForm key other := by
    intro other
    rw [← attributeValueMatches_iff, ← Bool.not_eq_false]
    exact fun differs => all ⟨other, differs⟩
  have blank : valueForm key "" = valueForm key "x" := (matches_all "").symm.trans (matches_all "x")
  have short : (valueForm key "").length = 0 := by
    unfold valueForm
    split
    · rfl
    · split <;> rfl
  have long : (valueForm key "x").length = 1 := by
    unfold valueForm
    split
    · rfl
    · split <;> rfl
  rw [blank, long] at short
  cases short

theorem formatAttributeDriftMessage_ne_empty (drifts : List AttributeDrift) (some_drift : drifts ≠ []) :
    formatAttributeDriftMessage drifts ≠ "" := by
  rw [formatAttributeDriftMessage, if_neg some_drift]
  intro empty
  have letters := congrArg String.toList empty
  simp at letters

end Bounds

section Cases

attribute [local instance] asciiTables

theorem authoritySetsEqual_decides_spellings :
    ∃ equal, authoritySetsEqual ["GET", "get", "put"] ["Put", "gEt", "GET"] = some equal ∧
      (equal = true ↔ SameAuthorities ["GET", "get", "put"] ["Put", "gEt", "GET"]) := by
  have names : (["GET", "get", "put"].map fun entry => toUpper (trimSpace entry)).Perm
      (["Put", "gEt", "GET"].map fun entry => toUpper (trimSpace entry)) := by decide +kernel
  have counted : ∀ authority, timesNamed ["GET", "get", "put"] authority = timesNamed ["Put", "gEt", "GET"] authority := by
    intro authority
    rw [timesNamed_eq_count, timesNamed_eq_count, names.count_eq]
  exact authoritySetsEqual_decides _ _ (counted "") fun authority _ _ => counted authority

/-- One authority in two spellings is not the authority alone; a blank entry is taken for any authority behind it, or
breaks the comparison from the other side. -/
theorem authoritySetsEqual_misjudges :
    authoritySetsEqual ["GET", "get"] ["GET"] = some false ∧ SameAuthorities ["GET", "get"] ["GET"] ∧
      authoritySetsEqual [" "] ["GET"] = some true ∧ ¬SameAuthorities [" "] ["GET"] ∧
      authoritySetsEqual ["GET"] [" "] = none := by
  refine ⟨by decide +kernel, ?_, by decide +kernel, ?_, by decide +kernel⟩
  · intro authority
    have both : normalizeAuthoritySet ["GET", "get"] = ["GET", "GET"] := by decide +kernel
    have single : normalizeAuthoritySet ["GET"] = ["GET"] := by decide +kernel
    rw [← mem_normalizeAuthoritySet_iff, ← mem_normalizeAuthoritySet_iff, both, single, List.mem_cons, List.mem_singleton, or_self]
  · intro same
    have blank : normalizeAuthoritySet [" "] = [] := by decide +kernel
    have denoted : Denotes [" "] "GET" := (same "GET").mpr ⟨by decide, "GET", List.mem_singleton.mpr rfl, by decide +kernel⟩
    rw [← mem_normalizeAuthoritySet_iff, blank] at denoted
    cases denoted

end Cases

end MKurator.MqAdmin
