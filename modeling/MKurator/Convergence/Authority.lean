import Mathlib.Data.Finset.Dedup
import Mathlib.Data.Finset.SDiff
import Mathlib.Data.Finset.Union
import MKurator.MqRest.Clauses
import MKurator.MqRest.Client

/-! One SET AUTHREC and the DISPLAY AUTHREC behind it, on a queue manager that keeps a set of authorities for each
record: when the record that is shown is the one that the spec asks for. -/

namespace MKurator.Convergence
open MKurator.Api MKurator.MqAdmin MKurator.MqRest MKurator.Lib MKurator.Lib.Strings MKurator.Lib.Mqsc MKurator.Lib.Maps

/-- `[A-Za-z0-9+_]` -/
def isAuthorityChar (c : Char) : Bool := c.isAlphanum || c == '+' || c == '_'

/-- What the CRD schema asks of a record. -/
structure AuthorityAdmitted (spec : AuthoritySpec) : Prop where
  profile : spec.profile ≠ ""
  objectType : spec.objectType.isSome
  required : spec.principal ≠ "" ∨ spec.group ≠ ""
  notBoth : ¬(spec.principal ≠ "" ∧ spec.group ≠ "")
  listed : spec.authorities ≠ []
  pattern : ∀ authority ∈ spec.authorities, authority.toList ≠ [] ∧ authority.toList.all isAuthorityChar = true
  distinct : spec.authorities.Nodup

section QueueManager

/-- The name of an authority as the queue manager keeps it, in upper case. -/
structure Authority where
  name : String
  filled : name.toList ≠ []
  upper : name.toList.all (fun c => isAuthorityChar c && !c.isLower) = true
  deriving DecidableEq

def Authority.ofText (text : String) : Option Authority :=
  let name := String.ofList (text.toList.map Char.toUpper)
  if formed : name.toList ≠ [] ∧ name.toList.all (fun c => isAuthorityChar c && !c.isLower) = true then
    some ⟨name, formed.1, formed.2⟩
  else none

inductive AuthorityEntity where
  | principal (name : String)
  | group (name : String)
  deriving DecidableEq

structure AuthrecKey where
  profile : String
  objectType : String
  entity : AuthorityEntity
  deriving DecidableEq

def argument (keyword : String) (clauses : List Clause) : Option String :=
  clauses.findSome? fun
    | .word _ => none
    | .bare name value | .quoted name value => if name = keyword then some value else none

def authrecKey (clauses : List Clause) : Option AuthrecKey := do
  let profile ← argument "PROFILE" clauses
  let objectType ← argument "OBJTYPE" clauses
  match argument "PRINCIPAL" clauses, argument "GROUP" clauses with
  | some name, none => some ⟨profile, objectType, .principal name⟩
  | none, some name => some ⟨profile, objectType, .group name⟩
  | _, _ => none

def listedAuthorities (keyword : String) (clauses : List Clause) : List Authority :=
  match argument keyword clauses with
  | some list => (split list ',').filterMap Authority.ofText
  | none => []

abbrev Oam := AuthrecKey → Finset Authority

/-- SET AUTHREC: what AUTHRMV lists goes, and what AUTHADD lists comes. -/
def Oam.set (oam : Oam) (clauses : List Clause) : Oam :=
  match authrecKey clauses with
  | none => oam
  | some key => Function.update oam key
      (oam key \ (listedAuthorities "AUTHRMV" clauses).toFinset ∪ (listedAuthorities "AUTHADD" clauses).toFinset)

variable [UnicodeTables]

/-- The two forms of a displayed record: a parameter of the item, or the last pair of its text. -/
inductive Displays (resp : MqscResponse) (list : String) : Prop
  | parameter (item : CommandResponseItem) (single : resp.commandResponse = [item])
      (shown : item.parameters.lookup "authlist" = some (.text list))
      (unique : ∀ key ∈ item.parameters.keys, toLower key = "authlist" → key = "authlist")
  | text (item : CommandResponseItem) (heading attributes : String) (single : resp.commandResponse = [item])
      (plain : item.parameters = ∅)
      (shown : join (item.text ++ item.message) " " = heading ++ attributes ++ "AUTHLIST(" ++ list ++ ")")
      (headed : afterFirst "details.".toList heading.toList = some [])
      (closed : DisplayScan.outside.after attributes.toList = .outside)

/-- A network in front of a queue manager whose records nobody else changes meanwhile. -/
structure ServesAuthrec {σ : Type} (net : Network σ) (oam : σ → Oam) : Prop where
  sleep : ∀ d s, oam (net.sleepWithContext d s).2 = oam s
  login : ∀ config s, oam (net.login config s).2 = oam s
  /-- An attempt without an answer may have been applied or not. -/
  set : ∀ command clauses, read command = some (.word "SET" :: .word "AUTHREC" :: clauses) → ∀ cookies s,
    let sent := net.send (.runCommand command) cookies s
    oam sent.2 = (oam s).set clauses ∨
      (oam sent.2 = oam s ∧ ∀ res resp, sent.1 = .answered res → ¬Accepted net res resp)
  display : ∀ command clauses key, read command = some (.word "DISPLAY" :: .word "AUTHREC" :: clauses) →
    authrecKey clauses = some key → ∀ cookies s,
    let sent := net.send (.runCommand command) cookies s
    oam sent.2 = oam s ∧ ∀ res resp, (oam s key).Nonempty → sent.1 = .answered res → Accepted net res resp →
      ∃ held : List Authority, held.Nodup ∧ held.toFinset = oam s key ∧ Displays resp (join (held.map Authority.name) ",")

end QueueManager

section Names

theorem Authority.name_injective {first second : Authority} (same : first.name = second.name) : first = second := by
  cases first
  cases second
  cases same
  rfl

theorem perm_iff_of_added {α : Type} [DecidableEq α] {added now : List α} {before : Finset α} (distinct : now.Nodup)
    (all : now.toFinset = before ∪ added.toFinset) : added.Perm now ↔ added.Nodup ∧ before ⊆ added.toFinset := by
  constructor
  · intro perm
    refine ⟨perm.nodup_iff.mpr distinct, ?_⟩
    rw [List.toFinset_eq_of_perm _ _ perm, all]
    exact Finset.subset_union_left
  · rintro ⟨once, covered⟩
    refine List.perm_of_nodup_nodup_toFinset_eq once distinct ?_
    rw [all, Finset.union_eq_right.mpr covered]

theorem isAuthorityChar_toNat {c : Char} (allowed : isAuthorityChar c = true) :
    c.toNat = 43 ∨ (48 ≤ c.toNat ∧ c.toNat ≤ 57) ∨ (65 ≤ c.toNat ∧ c.toNat ≤ 90) ∨ c.toNat = 95 ∨
      (97 ≤ c.toNat ∧ c.toNat ≤ 122) := by
  rw [isAuthorityChar, Bool.or_eq_true, Bool.or_eq_true, isAlphanum_iff_toNat, beq_iff_eq, beq_iff_eq] at allowed
  rcases allowed with ((((upper | lower) | digit) | rfl) | rfl)
  · omega
  · omega
  · omega
  · exact .inl rfl
  · exact .inr (.inr (.inr (.inl rfl)))

theorem isAuthorityChar_apart {c other : Char} (allowed : isAuthorityChar c = true)
    (outside : isAuthorityChar other = false) : c ≠ other := by
  rintro rfl
  rw [allowed] at outside
  cases outside

theorem item_authority {value : String} (filled : value.toList ≠ []) (allowed : value.toList.all isAuthorityChar = true) :
    Item value := by
  refine ⟨filled, List.all_eq_true.mpr fun c inside => ?_⟩
  have char := List.all_eq_true.mp allowed c inside
  simp only [isItemChar, isBareChar, Bool.and_eq_true, bne_iff_ne]
  exact ⟨⟨⟨isAuthorityChar_apart char (by decide), isAuthorityChar_apart char (by decide)⟩,
    isAuthorityChar_apart char (by decide)⟩, isAuthorityChar_apart char (by decide)⟩

theorem isSpace_of_authorityChar {c : Char} (allowed : isAuthorityChar c = true) : isSpace c = false := by
  have range := isAuthorityChar_toNat allowed
  exact isSpace_of_visible (by omega) (by omega)

theorem isAuthorityChar_toUpper {c : Char} (allowed : isAuthorityChar c = true) :
    (isAuthorityChar c.toUpper && !c.toUpper.isLower) = true := by
  have range := isAuthorityChar_toNat allowed
  have upper := toNat_toUpper c
  by_cases lower : 97 ≤ c.toNat ∧ c.toNat ≤ 122
  · rw [if_pos lower] at upper
    have letter : c.toUpper.isAlphanum = true := (isAlphanum_iff_toNat _).mpr (.inl (.inl (by omega)))
    have notLower : ¬c.toUpper.isLower = true := by
      rw [isLower_iff_toNat]
      omega
    simp [isAuthorityChar, letter, notLower]
  · rw [char_toUpper_eq_self c (by omega), allowed]
    have notLower : ¬c.isLower = true := fun low => lower ((isLower_iff_toNat _).mp low)
    simp [notLower]

theorem trimSpace_of_authorityChars {text : String} (pattern : text.toList.all isAuthorityChar = true) :
    trimSpace text = text :=
  trimBy_of_none isSpace text fun c member => isSpace_of_authorityChar (List.all_eq_true.mp pattern c member)

theorem Authority.pattern (authority : Authority) : authority.name.toList.all isAuthorityChar = true :=
  List.all_eq_true.mpr fun c member => (Bool.and_eq_true_iff.mp (List.all_eq_true.mp authority.upper c member)).1

theorem authlist_unclosed {held : List Authority} : ')' ∉ (join (held.map Authority.name) ",").toList := by
  have allowed : (join (held.map Authority.name) ",").toList.all (· != ')') = true := by
    refine all_join (fun part member => ?_) (by decide)
    obtain ⟨authority, -, rfl⟩ := List.mem_map.mp member
    refine List.all_eq_true.mpr fun c inside => bne_iff_ne.mpr ?_
    exact isAuthorityChar_apart (List.all_eq_true.mp authority.pattern c inside) (by decide)
  intro member
  exact absurd (List.all_eq_true.mp allowed ')' member) (by decide)

theorem authlist_bare (p : Char → Bool) (blank : ∀ c, isAuthorityChar c = true → p c = false) (comma : p ',' = false)
    (held : List Authority) : trimBy p (join (held.map Authority.name) ",") = join (held.map Authority.name) "," := by
  have allowed : (join (held.map Authority.name) ",").toList.all (fun c => !p c) = true := by
    refine all_join (fun part member => ?_) (by simp [comma])
    obtain ⟨authority, -, rfl⟩ := List.mem_map.mp member
    refine List.all_eq_true.mpr fun c inside => ?_
    rw [blank c (List.all_eq_true.mp authority.pattern c inside)]
    rfl
  refine trimBy_of_none p _ fun c member => ?_
  have kept := List.all_eq_true.mp allowed c member
  simpa using kept

variable [UnicodeTables]

theorem toUpper_of_authorityChars {text : String} (pattern : text.toList.all isAuthorityChar = true) :
    toUpper text = String.ofList (text.toList.map Char.toUpper) := by
  refine toUpper_of_plain text (List.all_eq_true.mpr fun c member => ?_)
  have range := isAuthorityChar_toNat (List.all_eq_true.mp pattern c member)
  have ascii : c.toNat < 128 := by omega
  simp [isPlain, ascii]

theorem Authority.normalized (authority : Authority) : toUpper (trimSpace authority.name) = authority.name := by
  rw [trimSpace_of_authorityChars authority.pattern, toUpper_of_authorityChars authority.pattern]
  have same : authority.name.toList.map Char.toUpper = authority.name.toList.map id := by
    refine List.map_congr_left fun c member => char_toUpper_eq_self c ?_
    have kept := (Bool.and_eq_true_iff.mp (List.all_eq_true.mp authority.upper c member)).2
    have notLower : ¬(97 ≤ c.toNat ∧ c.toNat ≤ 122) := fun range => by
      rw [(isLower_iff_toNat c).mpr range] at kept
      cases kept
    omega
  rw [same, List.map_id, String.ofList_toList]

theorem Authority.ofText_of_pattern {text : String} (filled : text.toList ≠ [])
    (pattern : text.toList.all isAuthorityChar = true) :
    ∃ authority, Authority.ofText text = some authority ∧ authority.name = toUpper (trimSpace text) := by
  have formed : (String.ofList (text.toList.map Char.toUpper)).toList ≠ [] ∧
      (String.ofList (text.toList.map Char.toUpper)).toList.all (fun c => isAuthorityChar c && !c.isLower) = true := by
    rw [String.toList_ofList]
    refine ⟨fun empty => filled (List.map_eq_nil_iff.mp empty), ?_⟩
    rw [List.all_map]
    exact List.all_eq_true.mpr fun c member => isAuthorityChar_toUpper (List.all_eq_true.mp pattern c member)
  refine ⟨⟨_, formed.1, formed.2⟩, dif_pos formed, ?_⟩
  rw [trimSpace_of_authorityChars pattern, toUpper_of_authorityChars pattern]

end Names

section Commands

def desiredAuthorities (spec : AuthoritySpec) : List Authority := spec.authorities.filterMap Authority.ofText

def authorityKey (spec : AuthoritySpec) : AuthrecKey where
  profile := spec.profile
  objectType := (spec.objectType.map authorityObjectTypeMQSC).getD ""
  entity := if spec.principal ≠ "" then .principal spec.principal else .group spec.group

variable {spec : AuthoritySpec}

theorem AuthorityAdmitted.checked (admitted : AuthorityAdmitted spec) :
    ∃ objectType, spec.objectType = some objectType ∧ authorityObjectType spec = .ok objectType := by
  obtain ⟨objectType, known⟩ := Option.isSome_iff_exists.mp admitted.objectType
  refine ⟨objectType, known, ?_⟩
  have named : ¬(spec.principal = "" ∧ spec.group = "") := fun none =>
    admitted.required.elim (fun principal => principal none.1) (fun group => group none.2)
  rw [authorityObjectType, if_neg admitted.profile, known]
  simp only
  rw [if_neg named, if_neg admitted.notBoth]

theorem authrecKey_target {objectType : AuthorityObjectType} (known : spec.objectType = some objectType)
    (rest : List Clause) (quiet : ∀ keyword ∈ ["PRINCIPAL", "GROUP"], argument keyword rest = none) :
    authrecKey (authorityTargetClauses spec objectType ++ rest) = some (authorityKey spec) := by
  have principals := quiet "PRINCIPAL" (by simp)
  have groups := quiet "GROUP" (by simp)
  simp only [argument] at principals groups
  by_cases principal : spec.principal = ""
  · simp [authrecKey, argument, authorityTargetClauses, authorityKey, principal, known, principals]
  · simp [authrecKey, argument, authorityTargetClauses, authorityKey, principal, known, groups]

theorem authorityTargetClauses_wellFormed (spec : AuthoritySpec) (objectType : AuthorityObjectType) :
    ∀ clause ∈ authorityTargetClauses spec objectType, clause.WellFormed := by
  have entity : (if spec.principal ≠ "" then Clause.quoted "PRINCIPAL" spec.principal
      else .quoted "GROUP" spec.group).WellFormed := by
    split <;> exact ⟨by decide, by decide⟩
  have object : (Clause.bare "OBJTYPE" (authorityObjectTypeMQSC objectType)).WellFormed := by
    cases objectType <;> exact ⟨⟨by decide, by decide⟩, by decide, by decide⟩
  intro clause member
  simp only [authorityTargetClauses, List.mem_cons, List.not_mem_nil, or_false] at member
  rcases member with rfl | rfl | rfl
  · exact ⟨by decide, by decide⟩
  · exact object
  · exact entity

theorem AuthorityAdmitted.desired_names [UnicodeTables] (admitted : AuthorityAdmitted spec) :
    (desiredAuthorities spec).map Authority.name =
      spec.authorities.map fun authority => toUpper (trimSpace authority) := by
  have all : ∀ texts : List String, (∀ text ∈ texts, text.toList ≠ [] ∧ text.toList.all isAuthorityChar = true) →
      (texts.filterMap Authority.ofText).map Authority.name = texts.map fun text => toUpper (trimSpace text) := by
    intro texts pattern
    induction texts with
    | nil => rfl
    | cons text texts ih =>
      have here := pattern text (List.mem_cons_self ..)
      obtain ⟨authority, read, name⟩ := Authority.ofText_of_pattern here.1 here.2
      rw [List.filterMap_cons_some read, List.map_cons, List.map_cons, name,
        ih fun other member => pattern other (List.mem_cons_of_mem _ member)]
  exact all spec.authorities admitted.pattern

theorem AuthorityAdmitted.desired_ne_nil (admitted : AuthorityAdmitted spec) : desiredAuthorities spec ≠ [] := by
  obtain ⟨text, rest, shape⟩ := List.exists_cons_of_ne_nil admitted.listed
  have here := admitted.pattern text (shape ▸ List.mem_cons_self ..)
  -- reading a name needs no tables, so any will do
  let _ := asciiTables
  obtain ⟨authority, read, -⟩ := Authority.ofText_of_pattern here.1 here.2
  rw [desiredAuthorities, shape, List.filterMap_cons_some read]
  exact List.cons_ne_nil _ _

theorem AuthorityAdmitted.listWellFormed (admitted : AuthorityAdmitted spec) :
    (Clause.bare "AUTHADD" (join spec.authorities ",")).WellFormed := by
  have token : (Token.items "AUTHADD" spec.authorities).WellFormed := by
    refine ⟨⟨by decide, by decide⟩, admitted.listed, fun authority member => ?_⟩
    exact item_authority (admitted.pattern authority member).1 (admitted.pattern authority member).2
  exact token.clause

def setAuthorityClauses (spec : AuthoritySpec) (objectType : AuthorityObjectType) : List Clause :=
  authorityTargetClauses spec objectType ++ [.bare "AUTHADD" (join spec.authorities ",")]

theorem AuthorityAdmitted.set_command (admitted : AuthorityAdmitted spec) :
    ∃ command objectType, buildSetAuthorityMQSC spec false = .ok command ∧ spec.objectType = some objectType ∧
      Mqsc.read command = some (.word "SET" :: .word "AUTHREC" :: setAuthorityClauses spec objectType) := by
  obtain ⟨objectType, known, checked⟩ := admitted.checked
  refine ⟨_, objectType, buildSetAuthorityMQSC_writes checked admitted.listed, known, ?_⟩
  rw [Mqsc.read, String.toList_ofList]
  refine read_write _ fun clause member => ?_
  simp only [List.mem_cons, List.mem_append, List.not_mem_nil, or_false] at member
  rcases member with (rfl | rfl | target) | rfl
  · exact ⟨by decide, by decide⟩
  · exact ⟨by decide, by decide⟩
  · exact authorityTargetClauses_wellFormed spec objectType clause target
  · exact admitted.listWellFormed

theorem AuthorityAdmitted.display_command (admitted : AuthorityAdmitted spec) :
    ∃ command objectType, buildDisplayAuthorityMQSC spec = .ok command ∧ spec.objectType = some objectType ∧
      Mqsc.read command = some (.word "DISPLAY" :: .word "AUTHREC" :: authorityTargetClauses spec objectType) := by
  obtain ⟨objectType, known, checked⟩ := admitted.checked
  refine ⟨_, objectType, buildDisplayAuthorityMQSC_writes checked, known, ?_⟩
  rw [Mqsc.read, String.toList_ofList]
  refine read_write _ fun clause member => ?_
  simp only [List.mem_cons] at member
  rcases member with rfl | rfl | target
  · exact ⟨by decide, by decide⟩
  · exact ⟨by decide, by decide⟩
  · exact authorityTargetClauses_wellFormed spec objectType clause target

theorem listedAuthorities_set (admitted : AuthorityAdmitted spec) (objectType : AuthorityObjectType) :
    listedAuthorities "AUTHADD" (setAuthorityClauses spec objectType) = desiredAuthorities spec ∧
      listedAuthorities "AUTHRMV" (setAuthorityClauses spec objectType) = [] := by
  have added : argument "AUTHADD" (setAuthorityClauses spec objectType) = some (join spec.authorities ",") := by
    by_cases principal : spec.principal = "" <;>
      simp [argument, setAuthorityClauses, authorityTargetClauses, principal]
  have removed : argument "AUTHRMV" (setAuthorityClauses spec objectType) = none := by
    by_cases principal : spec.principal = "" <;>
      simp [argument, setAuthorityClauses, authorityTargetClauses, principal]
  have parts : split (join spec.authorities ",") ',' = spec.authorities :=
    split_join spec.authorities ',' admitted.listed fun part member comma =>
      isAuthorityChar_apart (List.all_eq_true.mp (admitted.pattern part member).2 _ comma) (by decide) rfl
  constructor
  · rw [listedAuthorities, added]
    simp only [parts]
    rfl
  · rw [listedAuthorities, removed]

theorem oam_set_of_spec (admitted : AuthorityAdmitted spec) {objectType : AuthorityObjectType}
    (known : spec.objectType = some objectType) (oam : Oam) :
    oam.set (setAuthorityClauses spec objectType) =
      Function.update oam (authorityKey spec) (oam (authorityKey spec) ∪ (desiredAuthorities spec).toFinset) := by
  obtain ⟨added, removed⟩ := listedAuthorities_set admitted objectType
  have quiet : ∀ keyword ∈ ["PRINCIPAL", "GROUP"],
      argument keyword [.bare "AUTHADD" (join spec.authorities ",")] = none := by simp [argument]
  have key : authrecKey (setAuthorityClauses spec objectType) = some (authorityKey spec) :=
    authrecKey_target known _ quiet
  rw [Oam.set, key]
  simp only [added, removed, List.toFinset_nil, Finset.sdiff_empty]

/-- Adding the same authorities twice is adding them once, so a repeated attempt does no harm. -/
theorem oam_set_twice (admitted : AuthorityAdmitted spec) {objectType : AuthorityObjectType}
    (known : spec.objectType = some objectType) (records : Oam) :
    (records.set (setAuthorityClauses spec objectType)).set (setAuthorityClauses spec objectType) =
      records.set (setAuthorityClauses spec objectType) := by
  rw [oam_set_of_spec admitted known, oam_set_of_spec admitted known, Function.update_self, Function.update_idem,
    Finset.union_assoc, Finset.union_self]

theorem observed_authorities {held : List Authority} (some_held : held ≠ []) {attrs : StringMap}
    (listed : attrs.get "authlist" = join (held.map Authority.name) ",") :
    (authorityStateFromAttributes spec attrs).authorities = held.map Authority.name := by
  obtain ⟨first, rest, shape⟩ := List.exists_cons_of_ne_nil some_held
  have some_text : join (held.map Authority.name) "," ≠ "" := by
    intro empty
    have names : held.map Authority.name = first.name :: rest.map Authority.name := by rw [shape, List.map_cons]
    exact join_ne_empty "," names first.filled (by rw [empty]; rfl)
  have parts : split (join (held.map Authority.name) ",") ',' = held.map Authority.name := by
    refine split_join _ ',' (by rw [shape]; exact List.cons_ne_nil _ _) fun part member comma => ?_
    obtain ⟨authority, -, rfl⟩ := List.mem_map.mp member
    exact isAuthorityChar_apart (List.all_eq_true.mp authority.pattern _ comma) (by decide) rfl
  have trimmed : (held.map Authority.name).map trimSpace = held.map Authority.name := by
    rw [List.map_map]
    exact List.map_congr_left fun authority _ => trimSpace_of_authorityChars authority.pattern
  have kept : (held.map Authority.name).filter (· ≠ "") = held.map Authority.name := by
    refine List.filter_eq_self.mpr fun part member => decide_eq_true ?_
    obtain ⟨authority, -, rfl⟩ := List.mem_map.mp member
    exact fun empty => authority.filled (by rw [empty]; rfl)
  simp only [authorityStateFromAttributes, listed]
  rw [if_neg some_text, parts, trimmed, kept]

end Commands

section Convergence

open Fallible

variable [UnicodeTables] {σ : Type} {net : Network σ} {client : Client} {oam : σ → Oam} {spec : AuthoritySpec} {w : Wire σ}

theorem ServesAuthrec.carries_set (serves : ServesAuthrec net oam) (admitted : AuthorityAdmitted spec)
    {objectType : AuthorityObjectType} (known : spec.objectType = some objectType) {command : String}
    (reads : Mqsc.read command = some (.word "SET" :: .word "AUTHREC" :: setAuthorityClauses spec objectType))
    (records : Oam) :
    Carries net (.runCommand command)
      (fun s => oam s = records ∨ oam s = records.set (setAuthorityClauses spec objectType))
      (fun res s => ∀ resp, Accepted net res resp → oam s = records.set (setAuthorityClauses spec objectType)) where
  sleep d s here := by rwa [serves.sleep]
  login config s here := by rwa [serves.login]
  send cookies s here := by
    have applied : (oam s).set (setAuthorityClauses spec objectType) =
        records.set (setAuthorityClauses spec objectType) := by
      rcases here with same | same
      · rw [same]
      · rw [same, oam_set_twice admitted known]
    rcases serves.set command _ reads cookies s with sent | ⟨unsent, refused⟩
    · rw [applied] at sent
      exact ⟨.inr sent, fun _ _ _ _ => sent⟩
    · rw [← unsent] at here
      exact ⟨here, fun res answered resp accepted => absurd accepted (refused res resp answered)⟩
  unauthorized res s status resp accepted := by
    obtain ⟨raw, body, low, decoded, success⟩ := accepted
    omega

theorem setAuthority_applies (serves : ServesAuthrec net oam) (admitted : AuthorityAdmitted spec)
    (done : (setAuthority net client spec).outcome w = .ok ()) :
    oam ((setAuthority net client spec).after w).net (authorityKey spec) =
      oam w.net (authorityKey spec) ∪ (desiredAuthorities spec).toFinset := by
  obtain ⟨command, objectType, built, known, reads⟩ := admitted.set_command
  have run : setAuthority net client spec = execute net client (.runCommand command) := by
    rw [setAuthority, built]
    rfl
  rw [run] at done ⊢
  obtain ⟨resp, ⟨res, raw, arrived, body, low, decoded⟩, success⟩ := execute_ok done
  have delivered := roundTripWithReauth_delivers client (serves.carries_set admitted known reads (oam w.net)) w (.inl rfl)
  rw [after_execute, delivered.2 res arrived resp ⟨raw, body, low, decoded, success⟩, oam_set_of_spec admitted known,
    Function.update_self]

theorem ServesAuthrec.carries_display (serves : ServesAuthrec net oam) {command : String} {clauses : List Clause}
    {key : AuthrecKey} (reads : Mqsc.read command = some (.word "DISPLAY" :: .word "AUTHREC" :: clauses))
    (target : authrecKey clauses = some key) {records : Oam} (some_held : (records key).Nonempty) :
    Carries net (.runCommand command) (fun s => oam s = records)
      (fun res _ => ∀ resp, Accepted net res resp → ∃ held : List Authority, held.Nodup ∧ held.toFinset = records key ∧
        Displays resp (join (held.map Authority.name) ",")) where
  sleep d s here := by rwa [serves.sleep]
  login config s here := by rwa [serves.login]
  send cookies s here := by
    obtain ⟨kept, lists⟩ := serves.display command clauses key reads target cookies s
    rw [here] at kept lists
    exact ⟨kept, fun res answered resp accepted => lists res resp some_held answered accepted⟩
  unauthorized res s status resp accepted := by
    obtain ⟨raw, body, low, decoded, success⟩ := accepted
    omega

theorem Displays.attributes {resp : MqscResponse} {held : List Authority} (success : resp.overallFailed = false)
    (shown : Displays resp (join (held.map Authority.name) ",")) :
    ∃ attrs, resp.firstObjectAttributes = .ok attrs ∧
      (if attrs.entries = [] then resp.displayTextAttributes else attrs).get "authlist" =
        join (held.map Authority.name) "," := by
  have lowered : toLower "authlist" = "authlist" := toLower_of_plain _ (by decide)
  cases shown with
  | parameter item single shown unique =>
    refine ⟨_, MqscResponse.firstObjectAttributes_single single success, ?_⟩
    have found : (fill toLower (fun _ (value : JsonValue) => value.sprint) item.parameters.entries
        (∅ : StringMap)).lookup (toLower "authlist") = some (join (held.map Authority.name) ",") :=
      lookup_fill_entries shown fun other member same => unique other member (same.trans lowered)
    rw [lowered] at found
    have filled : (fill toLower (fun _ (value : JsonValue) => value.sprint) item.parameters.entries
        (∅ : StringMap)).entries ≠ [] := by
      intro empty
      have member := AList.mem_lookup_iff.mp found
      rw [empty] at member
      cases member
    rw [if_neg filled, StringMap.get, found]
    rfl
  | text item heading attributes single plain shown headed closed =>
    refine ⟨_, MqscResponse.firstObjectAttributes_single single success, ?_⟩
    have empty : (fill toLower (fun _ (value : JsonValue) => value.sprint) item.parameters.entries
        (∅ : StringMap)).entries = [] := by
      rw [plain]
      rfl
    rw [if_pos empty, MqscResponse.displayTextAttributes, single, List.flatMap_singleton]
    have joined : join (item.text ++ item.message) " " = heading ++ attributes ++
        String.ofList ("AUTHLIST".toList ++ '(' :: ((join (held.map Authority.name) ",").toList ++ [')'])) := by
      rw [shown, ← String.toList_inj]
      simp
    have last := parseMQSCDisplayAttributes_last joined headed closed (by decide) authlist_unclosed
    have key : toLower (String.ofList "AUTHLIST".toList) = "authlist" := toLower_of_plain _ (by decide)
    rw [key, trimSpace, authlist_bare isSpace (fun c => isSpace_of_authorityChar) (by decide),
      authlist_bare _ (fun c allowed => decide_eq_false (isAuthorityChar_apart allowed (by decide))) (by decide)] at last
    exact last

def DisplayAnswered (net : Network σ) (client : Client) (spec : AuthoritySpec) (w : Wire σ) : Prop :=
  ∃ command resp, buildDisplayAuthorityMQSC spec = .ok command ∧ Answered net client (.runCommand command) w resp ∧
    resp.overallFailed = false

/-- GetAuthority finds the authorities that the record holds, unless it takes them for a removed record. -/
theorem getAuthority_lists (serves : ServesAuthrec net oam) (admitted : AuthorityAdmitted spec)
    (answered : DisplayAnswered net client spec w) (some_held : (oam w.net (authorityKey spec)).Nonempty) :
    ∃ (held : List Authority) (state : AuthorityState), held.Nodup ∧
      held.toFinset = oam w.net (authorityKey spec) ∧ state.authorities = held.map Authority.name ∧
      (getAuthority net client spec).outcome w =
        if authorityRecordRemoved state.authorities then .error (.notFound spec.profile) else .ok state := by
  obtain ⟨command, resp, built, ⟨res, raw, arrived, body, low, decoded⟩, success⟩ := answered
  obtain ⟨_, objectType, same, known, reads⟩ := admitted.display_command
  obtain rfl := Except.ok.inj (built.symm.trans same)
  have target : authrecKey (authorityTargetClauses spec objectType) = some (authorityKey spec) := by
    have found := authrecKey_target known [] (by simp [argument])
    rwa [List.append_nil] at found
  have delivered := roundTripWithReauth_delivers client (serves.carries_display reads target some_held) w rfl
  obtain ⟨held, distinct, all, shown⟩ := delivered.2 res arrived resp ⟨raw, body, low, decoded, success⟩
  obtain ⟨attrs, decodedAttrs, listed⟩ := shown.attributes success
  have nonempty : held ≠ [] := by
    rintro rfl
    rw [← all] at some_held
    exact Finset.not_nonempty_empty some_held
  refine ⟨held, authorityStateFromAttributes spec (if attrs.entries = [] then resp.displayTextAttributes else attrs),
    distinct, all, observed_authorities nonempty listed, ?_⟩
  have posted : (postMQSC net client (.runCommand command)).outcome w = .ok resp := by
    rw [postMQSC_of_answered ⟨res, raw, arrived, body, low, decoded⟩, success]
    rfl
  exact getAuthority_of_attributes built (runDisplayMQSC_of_attributes posted decodedAttrs)

theorem equalFold_none (authority : Authority) : equalFold authority.name "NONE" = true ↔ authority.name = "NONE" := by
  have folds : ∀ text : String, text.toList.all isAuthorityChar = true →
      text.toList.map UnicodeTables.fold = text.toList.map Char.toLower := by
    intro text pattern
    refine List.map_congr_left fun c member => UnicodeTables.fold_ascii c ?_
    have range := isAuthorityChar_toNat (List.all_eq_true.mp pattern c member)
    omega
  have raised : (authority.name.toList.map Char.toLower).map Char.toUpper = authority.name.toList := by
    rw [List.map_map]
    refine (List.map_congr_left fun c member => ?_).trans (List.map_id _)
    have upper := (Bool.and_eq_true_iff.mp (List.all_eq_true.mp authority.upper c member)).2
    exact toUpper_toLower_of_not_lower c (by simpa using upper)
  rw [equalFold, beq_iff_eq, folds _ authority.pattern, folds "NONE" (by decide), ← String.toList_inj]
  constructor
  · intro same
    rw [← raised, same]
    rfl
  · intro same
    rw [same]

theorem authorityRecordRemoved_iff {held : List Authority} (some_held : held ≠ []) :
    authorityRecordRemoved (held.map Authority.name) = true ↔ held.map Authority.name = ["NONE"] := by
  cases held with
  | nil => exact absurd rfl some_held
  | cons first rest =>
    cases rest with
    | nil => simp [authorityRecordRemoved, equalFold_none]
    | cons second rest => simp [authorityRecordRemoved]

theorem AuthorityAdmitted.needsUpdate_iff (admitted : AuthorityAdmitted spec) {state : AuthorityState}
    {held : List Authority} (listed : state.authorities = held.map Authority.name) :
    authorityNeedsUpdate spec state = false ↔ (desiredAuthorities spec).Perm held := by
  have nonblank : ∀ authority ∈ spec.authorities, trimSpace authority ≠ "" := by
    intro authority member empty
    obtain ⟨filled, pattern⟩ := admitted.pattern authority member
    rw [trimSpace_of_authorityChars pattern] at empty
    exact filled (by rw [empty]; rfl)
  have observed : (held.map Authority.name).map (fun authority => toUpper (trimSpace authority)) =
      held.map Authority.name := by
    rw [List.map_map]
    exact List.map_congr_left fun authority _ => authority.normalized
  rw [authorityNeedsUpdate_eq_false_iff spec state nonblank, ← admitted.desired_names, listed, observed]
  exact List.map_perm_map_iff fun a b same => Authority.name_injective same

/-- One apply reaches the desired record exactly when no authority is listed twice, the record held nothing beyond the
listed ones, and the list is not just NONE. -/
theorem setAuthority_converges_iff (serves : ServesAuthrec net oam) (admitted : AuthorityAdmitted spec)
    (applied : (setAuthority net client spec).outcome w = .ok ())
    (answered : DisplayAnswered net client spec ((setAuthority net client spec).after w)) :
    (∃ state, (getAuthority net client spec).outcome ((setAuthority net client spec).after w) = .ok state ∧
        authorityNeedsUpdate spec state = false) ↔
      (desiredAuthorities spec).Nodup ∧ oam w.net (authorityKey spec) ⊆ (desiredAuthorities spec).toFinset ∧
        (desiredAuthorities spec).map Authority.name ≠ ["NONE"] := by
  have now_held := setAuthority_applies serves admitted applied
  have some_held : (oam ((setAuthority net client spec).after w).net (authorityKey spec)).Nonempty := by
    obtain ⟨first, rest, shape⟩ := List.exists_cons_of_ne_nil admitted.desired_ne_nil
    rw [now_held, shape]
    exact ⟨first, Finset.mem_union_right _ (List.mem_toFinset.mpr (List.mem_cons_self ..))⟩
  obtain ⟨held, state, distinct, all, listed, got⟩ := getAuthority_lists serves admitted answered some_held
  have nonempty : held ≠ [] := by
    rintro rfl
    rw [← all] at some_held
    exact Finset.not_nonempty_empty some_held
  have compared := (admitted.needsUpdate_iff listed).trans (perm_iff_of_added distinct (all.trans now_held))
  have removed := authorityRecordRemoved_iff nonempty
  rw [← listed] at removed
  rw [got, ← and_assoc, ← compared]
  constructor
  · rintro ⟨found, outcome, same⟩
    split at outcome
    · cases outcome
    next kept =>
      cases outcome
      refine ⟨same, fun none => kept (removed.mpr ?_)⟩
      have perm := ((admitted.needsUpdate_iff listed).mp same).map Authority.name
      rw [none] at perm
      rw [listed]
      exact (List.singleton_perm.mp perm).symm
  · rintro ⟨same, some_other⟩
    have perm := ((admitted.needsUpdate_iff listed).mp same).map Authority.name
    have kept : ¬authorityRecordRemoved state.authorities = true := by
      intro gone
      rw [← listed, removed.mp gone] at perm
      exact some_other (List.perm_singleton.mp perm)
    exact ⟨state, if_neg kept, same⟩

end Convergence

section Cases

attribute [local instance] asciiTables

abbrev Records := AuthrecKey → List Authority

def Records.oam (records : Records) : Oam := fun key => (records key).toFinset

def Records.set (records : Records) (clauses : List Clause) : Records :=
  match authrecKey clauses with
  | none => records
  | some key => Function.update records key
      ((records key).filter (· ∉ listedAuthorities "AUTHRMV" clauses) ++ listedAuthorities "AUTHADD" clauses)

def recordKeeper : Network Records where
  now _ := 0
  sleepWithContext _ records := (none, records)
  send request _ records := match request with
    | .runCommandJSON .. => (.failed "connection refused", records)
    | .runCommand command => match Mqsc.read command with
      | some (.word "SET" :: .word "AUTHREC" :: clauses) => (.answered ⟨200, .ok ""⟩, records.set clauses)
      | some (.word "DISPLAY" :: .word "AUTHREC" :: clauses) =>
        (.answered ⟨200, .ok (match authrecKey clauses with
          | some key => join ((records key).dedup.map Authority.name) ","
          | none => "")⟩, records)
      | _ => (.failed "connection refused", records)
  login _ records := (.answered 200 ["LtpaToken2"], records)
  unmarshal raw := .ok ⟨[⟨0, [], [], AList.singleton "authlist" (.text raw)⟩], 0, []⟩
  errorMsgIDs _ := []

theorem oam_set_records (records : Records) (clauses : List Clause) :
    (records.set clauses).oam = records.oam.set clauses := by
  unfold Records.set Oam.set
  cases authrecKey clauses with
  | none => rfl
  | some key =>
    funext other
    by_cases same : other = key
    · subst same
      simp only [Records.oam, Function.update_self]
      ext authority
      simp
    · simp only [Records.oam, Function.update_of_ne same]

theorem recordKeeper_serves : ServesAuthrec recordKeeper Records.oam where
  sleep _ _ := rfl
  login _ _ := rfl
  set command clauses reads cookies records := by
    have sent : recordKeeper.send (.runCommand command) cookies records =
        (.answered ⟨200, .ok ""⟩, records.set clauses) := by
      simp only [recordKeeper, reads]
    simp only [sent]
    exact .inl (oam_set_records records clauses)
  display command clauses key reads target cookies records := by
    have sent : recordKeeper.send (.runCommand command) cookies records =
        (.answered ⟨200, .ok (join ((records key).dedup.map Authority.name) ",")⟩, records) := by
      simp only [recordKeeper, reads, target]
    simp only [sent, true_and]
    intro res resp _ answered accepted
    obtain ⟨raw, body, low, decoded, success⟩ := accepted
    cases answered
    cases body
    cases decoded
    refine ⟨(records key).dedup, List.nodup_dedup _, by ext authority; simp [Records.oam], ?_⟩
    refine .parameter _ rfl rfl fun name member _ => ?_
    simpa [AList.keys_singleton] using member

def ordersGet : AuthoritySpec := ⟨"APP.ORDERS", some .queue, "app", "", ["GET"]⟩

theorem ordersGet_admitted : AuthorityAdmitted ordersGet where
  profile := by decide
  objectType := rfl
  required := .inl (by decide)
  notBoth := by decide
  listed := by decide
  pattern := by decide
  distinct := by decide

def holding (held : List String) : Wire Records :=
  ⟨newCircuitBreaker 5 30000000000, ⟨[], 0⟩,
    fun key => if key = authorityKey ordersGet then held.filterMap Authority.ofText else []⟩

theorem setAuthority_converges_fresh :
    ∃ state, (getAuthority recordKeeper basicClient ordersGet).outcome
        ((setAuthority recordKeeper basicClient ordersGet).after (holding [])) = .ok state ∧
      authorityNeedsUpdate ordersGet state = false :=
  (setAuthority_converges_iff recordKeeper_serves ordersGet_admitted rfl
    ⟨_, _, rfl, ⟨_, _, rfl, rfl, by decide, rfl⟩, rfl⟩).mpr ⟨by decide, by decide, by decide⟩

/-- PUT, which the spec does not list, survives the apply, so that the next pass finds drift again. -/
theorem setAuthority_keeps_surplus :
    ServesAuthrec recordKeeper Records.oam ∧ AuthorityAdmitted ordersGet ∧
      (setAuthority recordKeeper basicClient ordersGet).outcome (holding ["PUT"]) = .ok () ∧
      ((getAuthority recordKeeper basicClient ordersGet).outcome
        ((setAuthority recordKeeper basicClient ordersGet).after (holding ["PUT"]))).toOption.map
          (authorityNeedsUpdate ordersGet) = some true :=
  ⟨recordKeeper_serves, ordersGet_admitted, rfl, by decide +kernel⟩

end Cases

end MKurator.Convergence
