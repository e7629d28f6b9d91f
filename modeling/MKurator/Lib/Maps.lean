import Mathlib.Data.List.AList
import Mathlib.Data.List.Induction

/-! Finite maps that are filled entry by entry under renamed keys, and what is found after one entry has changed. -/

namespace MKurator.Lib.Maps

variable {κ κ' α β : Type} [DecidableEq κ'] (rename : κ → κ') (convert : κ → α → β)

/-- Copies the entries one after the other, so that the last of two with the same new key wins. -/
def fill (entries : List (Σ _ : κ, α)) (start : AList fun _ : κ' => β) : AList fun _ : κ' => β :=
  entries.foldl (fun filled entry => filled.insert (rename entry.1) (convert entry.1 entry.2)) start

theorem fill_cons (entry : Σ _ : κ, α) (entries : List (Σ _ : κ, α)) (start : AList fun _ : κ' => β) :
    fill rename convert (entry :: entries) start =
      fill rename convert entries (start.insert (rename entry.1) (convert entry.1 entry.2)) := rfl

variable {rename convert} {entries : List (Σ _ : κ, α)} {start : AList fun _ : κ' => β}

theorem lookup_fill_of_absent {key : κ'} (absent : ∀ entry ∈ entries, rename entry.1 ≠ key) :
    (fill rename convert entries start).lookup key = start.lookup key := by
  induction entries generalizing start with
  | nil => rfl
  | cons entry entries ih =>
    rw [fill_cons, ih fun other member => absent other (List.mem_cons_of_mem _ member),
      AList.lookup_insert_ne (Ne.symm (absent entry (List.mem_cons_self ..)))]

theorem lookup_fill {entry : Σ _ : κ, α} (member : entry ∈ entries)
    (agree : ∀ other ∈ entries, rename other.1 = rename entry.1 → convert other.1 other.2 = convert entry.1 entry.2) :
    (fill rename convert entries start).lookup (rename entry.1) = some (convert entry.1 entry.2) := by
  induction entries generalizing start entry with
  | nil => cases member
  | cons first entries ih =>
    have later : ∀ other ∈ entries, rename other.1 = rename entry.1 → convert other.1 other.2 = convert entry.1 entry.2 :=
      fun other inside => agree other (List.mem_cons_of_mem _ inside)
    rw [fill_cons]
    by_cases again : ∃ other ∈ entries, rename other.1 = rename entry.1
    · obtain ⟨other, inside, same⟩ := again
      have value := later other inside same
      rw [← same, ← value]
      exact ih inside fun third within taken => (later third within (taken.trans same)).trans value.symm
    · have absent : ∀ other ∈ entries, rename other.1 ≠ rename entry.1 :=
        fun other inside same => again ⟨other, inside, same⟩
      have last : entry = first := (List.mem_cons.mp member).resolve_right fun inside => absent entry inside rfl
      rw [lookup_fill_of_absent absent, ← last, AList.lookup_insert]

theorem lookup_fill_entries [DecidableEq κ] {source : AList fun _ : κ => α} {key : κ} {value : α}
    (found : source.lookup key = some value) (unique : ∀ other ∈ source.keys, rename other = rename key → other = key) :
    (fill rename convert source.entries start).lookup (rename key) = some (convert key value) := by
  refine lookup_fill (AList.mem_lookup_iff.mp found) fun other member same => ?_
  obtain ⟨name, given⟩ := other
  obtain rfl : name = key := unique name (List.mem_map_of_mem member) same
  have given_found := AList.mem_lookup_iff.mpr member
  rw [Option.mem_def, found] at given_found
  cases given_found
  rfl

/-- The order of the entries does not matter for a key whose entries all give it the same value. -/
theorem lookup_fill_perm_of_agree {others : List (Σ _ : κ, α)} (perm : others.Perm entries) {key : κ'}
    (agree : ∀ first ∈ entries, ∀ second ∈ entries, rename first.1 = key → rename second.1 = key →
      convert first.1 first.2 = convert second.1 second.2) :
    (fill rename convert others start).lookup key = (fill rename convert entries start).lookup key := by
  by_cases taken : ∃ entry ∈ entries, rename entry.1 = key
  · obtain ⟨entry, member, rfl⟩ := taken
    have same : ∀ other ∈ entries, rename other.1 = rename entry.1 → convert other.1 other.2 = convert entry.1 entry.2 :=
      fun other inside taken => agree other inside entry member taken rfl
    rw [lookup_fill (perm.mem_iff.mpr member) fun other inside => same other (perm.mem_iff.mp inside),
      lookup_fill member same]
  · have absent : ∀ entry ∈ entries, rename entry.1 ≠ key := fun entry member same => taken ⟨entry, member, same⟩
    rw [lookup_fill_of_absent absent, lookup_fill_of_absent fun entry member => absent entry (perm.mem_iff.mp member)]

theorem lookup_fill_perm {others : List (Σ _ : κ, α)} (perm : others.Perm entries)
    (distinct : ∀ first ∈ entries, ∀ second ∈ entries, rename first.1 = rename second.1 → first = second) (key : κ') :
    (fill rename convert others start).lookup key = (fill rename convert entries start).lookup key :=
  lookup_fill_perm_of_agree perm fun first left second right one two => distinct first left second right (one.trans two.symm) ▸ rfl

theorem lookup_fill_cases {key : κ'} {value : β} (found : (fill rename convert entries start).lookup key = some value) :
    start.lookup key = some value ∨ ∃ entry ∈ entries, rename entry.1 = key ∧ convert entry.1 entry.2 = value := by
  induction entries generalizing start with
  | nil => exact .inl found
  | cons entry entries ih =>
    rw [fill_cons] at found
    rcases ih found with before | ⟨other, member, same, given⟩
    · by_cases here : rename entry.1 = key
      · rw [← here, AList.lookup_insert] at before
        exact .inr ⟨entry, List.mem_cons_self .., here, Option.some.inj before⟩
      · rw [AList.lookup_insert_ne (Ne.symm here)] at before
        exact .inl before
    · exact .inr ⟨other, List.mem_cons_of_mem _ member, same, given⟩

/-- The last of the items whose own map has the key gives it this value. -/
def ShownLast {ι : Type} (shown : ι → AList fun _ : κ' => β) (items : List ι) (key : κ') (value : β) : Prop :=
  ∃ before item after, items = before ++ item :: after ∧ (shown item).lookup key = some value ∧
    ∀ later ∈ after, (shown later).lookup key = none

theorem fill_append (front back : List (Σ _ : κ, α)) (start : AList fun _ : κ' => β) :
    fill rename convert (front ++ back) start = fill rename convert back (fill rename convert front start) :=
  List.foldl_append

theorem lookup_fill_last (entry : Σ _ : κ, α) :
    (fill rename convert (entries ++ [entry]) start).lookup (rename entry.1) = some (convert entry.1 entry.2) := by
  rw [fill_append, fill_cons, fill, List.foldl_nil, AList.lookup_insert]

theorem lookup_fill_orders_iff (key : κ') (value : β) :
    (∀ others : List (Σ _ : κ, α), others.Perm entries → (fill rename convert others start).lookup key = some value) ↔
      (∀ entry ∈ entries, rename entry.1 = key → convert entry.1 entry.2 = value) ∧
        ((∃ entry ∈ entries, rename entry.1 = key) ∨ start.lookup key = some value) := by
  constructor
  · intro every
    constructor
    · rintro entry member rfl
      obtain ⟨before, after, rfl⟩ := List.append_of_mem member
      have moved : (before ++ after ++ [entry]).Perm (before ++ entry :: after) :=
        (List.perm_append_singleton entry _).trans List.perm_middle.symm
      have found := every _ moved
      rw [lookup_fill_last] at found
      exact Option.some.inj found
    · by_cases taken : ∃ entry ∈ entries, rename entry.1 = key
      · exact .inl taken
      · have found := every entries (List.Perm.refl _)
        rw [lookup_fill_of_absent fun entry member same => taken ⟨entry, member, same⟩] at found
        exact .inr found
  · rintro ⟨agree, present⟩ others perm
    by_cases taken : ∃ entry ∈ entries, rename entry.1 = key
    · obtain ⟨entry, member, rfl⟩ := taken
      rw [lookup_fill (perm.mem_iff.mpr member), agree entry member rfl]
      intro other inside same
      rw [agree other (perm.mem_iff.mp inside) same, agree entry member rfl]
    · have absent : ∀ entry ∈ others, rename entry.1 ≠ key :=
        fun entry member same => taken ⟨entry, perm.mem_iff.mp member, same⟩
      rw [lookup_fill_of_absent absent]
      exact present.resolve_left taken

theorem lookup_fill_map {γ : Type} {change : κ' → β → γ} {changed : AList fun _ : κ' => γ}
    (begun : ∀ key, changed.lookup key = (start.lookup key).map (change key)) (key : κ') :
    (fill rename (fun name value => change (rename name) (convert name value)) entries changed).lookup key =
      ((fill rename convert entries start).lookup key).map (change key) := by
  induction entries generalizing start changed with
  | nil => exact begun key
  | cons entry entries ih =>
    rw [fill_cons, fill_cons]
    apply ih
    intro other
    by_cases here : other = rename entry.1
    · rw [here, AList.lookup_insert, AList.lookup_insert, Option.map_some]
    · rw [AList.lookup_insert_ne here, AList.lookup_insert_ne here, begun other]

theorem exists_perm_last_two {first second : Σ _ : κ, α} (left : first ∈ entries) (right : second ∈ entries)
    (differ : first ≠ second) :
    ∃ rest, (rest ++ [first, second]).Perm entries ∧ (rest ++ [second, first]).Perm entries := by
  obtain ⟨before, after, rfl⟩ := List.append_of_mem left
  have inside : second ∈ before ++ after := by
    rw [List.mem_append, List.mem_cons] at right
    rw [List.mem_append]
    rcases right with early | same | late
    · exact .inl early
    · exact absurd same.symm differ
    · exact .inr late
  obtain ⟨front, back, whole⟩ := List.append_of_mem inside
  have moved : (front ++ back ++ [first, second]).Perm (before ++ first :: after) := by
    calc (front ++ back ++ [first, second]).Perm ([first, second] ++ (front ++ back)) := List.perm_append_comm
      _ = first :: second :: (front ++ back) := rfl
      List.Perm _ (first :: (front ++ second :: back)) := List.perm_middle.symm.cons first
      _ = first :: (before ++ after) := by rw [whole]
      List.Perm _ (before ++ first :: after) := List.perm_middle.symm
  exact ⟨front ++ back, moved, (List.Perm.append_left _ (List.Perm.swap first second [])).trans moved⟩

theorem forall_orders_iff [DecidableEq κ] (source : AList fun _ : κ => α) (p : List (Σ _ : κ, α) → Prop) :
    (∀ other : AList fun _ : κ => α, other.entries.Perm source.entries → p other.entries) ↔
      ∀ others : List (Σ _ : κ, α), others.Perm source.entries → p others := by
  constructor
  · intro maps others perm
    exact maps ⟨others, (List.perm_nodupKeys perm).mpr source.nodupKeys⟩ perm
  · intro lists other perm
    exact lists other.entries perm

theorem lookup_fill_or (key : κ') :
    (fill rename convert entries start).lookup key =
      ((fill rename convert entries ∅).lookup key).or (start.lookup key) := by
  induction entries generalizing start with
  | nil => rw [fill, fill, List.foldl_nil, List.foldl_nil, AList.lookup_empty, Option.none_or]
  | cons entry entries ih =>
    rw [fill_cons, fill_cons, ih, @ih ((∅ : AList fun _ : κ' => β).insert _ _), Option.or_assoc]
    by_cases here : key = rename entry.1
    · rw [here, AList.lookup_insert, AList.lookup_insert, Option.some_or]
    · rw [AList.lookup_insert_ne here, AList.lookup_insert_ne here, AList.lookup_empty, Option.none_or]

theorem lookup_fill_ne_none {entry : Σ _ : κ, α} (member : entry ∈ entries) :
    (fill rename convert entries start).lookup (rename entry.1) ≠ none := by
  induction entries generalizing start with
  | nil => cases member
  | cons first entries ih =>
    rw [fill_cons]
    rcases List.mem_cons.mp member with rfl | later
    · rw [lookup_fill_or, AList.lookup_insert]
      intro absent
      cases (Option.or_eq_none_iff.mp absent).2
    · exact ih later

theorem lookup_fill_iff_last (key : κ') (value : β) :
    (fill rename convert entries ∅).lookup key = some value ↔
      ∃ before entry after, entries = before ++ entry :: after ∧ rename entry.1 = key ∧ convert entry.1 entry.2 = value ∧
        ∀ later ∈ after, rename later.1 ≠ key := by
  constructor
  · intro found
    induction entries using List.reverseRecOn with
    | nil => cases found
    | append_singleton front final ih =>
      by_cases here : rename final.1 = key
      · rw [← here, lookup_fill_last] at found
        exact ⟨front, final, [], rfl, here, Option.some.inj found, fun later member => nomatch member⟩
      · have earlier : (fill rename convert front ∅).lookup key = some value := by
          rwa [fill_append, fill_cons, fill, List.foldl_nil, AList.lookup_insert_ne (Ne.symm here)] at found
        obtain ⟨before, entry, after, rfl, own, given, last⟩ := ih earlier
        refine ⟨before, entry, after ++ [final], by rw [List.append_assoc, List.cons_append], own, given, ?_⟩
        rw [List.forall_mem_append, List.forall_mem_singleton]
        exact ⟨last, here⟩
  · rintro ⟨before, entry, after, rfl, rfl, rfl, last⟩
    rw [fill_append, fill_cons, lookup_fill_of_absent last, AList.lookup_insert]

theorem lookup_fill_swap {first second : Σ _ : κ, α} {key : κ'} (left : rename first.1 ≠ key) (right : rename second.1 ≠ key) :
    (fill rename convert (entries ++ [first, second]) start).lookup key =
      (fill rename convert (entries ++ [second, first]) start).lookup key := by
  have front : ∀ entry ∈ [first, second], rename entry.1 ≠ key := by
    rw [List.forall_mem_cons, List.forall_mem_singleton]
    exact ⟨left, right⟩
  have back : ∀ entry ∈ [second, first], rename entry.1 ≠ key := by
    rw [List.forall_mem_cons, List.forall_mem_singleton]
    exact ⟨right, left⟩
  rw [fill_append, fill_append, lookup_fill_of_absent front, lookup_fill_of_absent back]

/-- Of many items in one map, the last that has a key is found under it. -/
theorem lookup_fill_flatMap_iff {ι : Type} (entriesOf : ι → List (Σ _ : κ, α)) (items : List ι) (key : κ') (value : β) :
    (fill rename convert (items.flatMap entriesOf) ∅).lookup key = some value ↔
      ShownLast (fun item => fill rename convert (entriesOf item) ∅) items key value := by
  induction items using List.reverseRecOn with
  | nil =>
    constructor
    · intro found
      cases found
    · rintro ⟨before, item, after, empty, -⟩
      exact absurd empty.symm (List.append_ne_nil_of_right_ne_nil _ (List.cons_ne_nil _ _))
  | append_singleton items last ih =>
    rw [List.flatMap_append, List.flatMap_singleton, fill_append, lookup_fill_or]
    constructor
    · intro found
      rcases Option.or_eq_some_iff.mp found with here | ⟨absent, earlier⟩
      · exact ⟨items, last, [], rfl, here, fun later member => nomatch member⟩
      · obtain ⟨before, item, after, rfl, own, silent⟩ := ih.mp earlier
        refine ⟨before, item, after ++ [last], by rw [List.append_assoc, List.cons_append], own, ?_⟩
        rw [List.forall_mem_append, List.forall_mem_singleton]
        exact ⟨silent, absent⟩
    · rintro ⟨before, item, after, whole, own, silent⟩
      rcases List.eq_nil_or_concat after with rfl | ⟨after, final, rfl⟩
      · obtain ⟨-, same⟩ := List.append_inj' whole rfl
        rw [← List.head_eq_of_cons_eq same] at own
        rw [own, Option.some_or]
      · rw [List.concat_eq_append, ← List.cons_append, ← List.append_assoc] at whole
        obtain ⟨front, same⟩ := List.append_inj' whole rfl
        rw [List.concat_eq_append, List.forall_mem_append, List.forall_mem_singleton,
          ← List.head_eq_of_cons_eq same] at silent
        rw [silent.2, Option.none_or]
        exact ih.mpr ⟨before, item, after, front, own, silent.1⟩

/-- One map has whatever the items together show last, and nothing else. -/
structure Covers {ι : Type} (own : AList fun _ : κ' => β) (shown : ι → AList fun _ : κ' => β) (items : List ι) : Prop where
  last : ∀ key value, ShownLast shown items key value → own.lookup key = some value
  only : ∀ key, own.lookup key ≠ none → ∃ item ∈ items, (shown item).lookup key ≠ none

theorem exists_shownLast {ι : Type} {shown : ι → AList fun _ : κ' => β} {items : List ι} {key : κ'}
    (somewhere : ∃ item ∈ items, (shown item).lookup key ≠ none) : ∃ value, ShownLast shown items key value := by
  induction items with
  | nil =>
    obtain ⟨item, member, -⟩ := somewhere
    cases member
  | cons first items ih =>
    by_cases later : ∃ item ∈ items, (shown item).lookup key ≠ none
    · obtain ⟨value, before, item, after, rfl, own, silent⟩ := ih later
      exact ⟨value, first :: before, item, after, rfl, own, silent⟩
    · obtain ⟨item, member, shows⟩ := somewhere
      have here : item = first :=
        (List.mem_cons.mp member).resolve_right fun inside => later ⟨item, inside, shows⟩
      obtain ⟨value, own⟩ := Option.ne_none_iff_exists'.mp shows
      refine ⟨value, [], first, items, rfl, here ▸ own, ?_⟩
      intro other inside
      by_contra present
      exact later ⟨other, inside, present⟩

theorem lookup_eq_iff_covers {ι : Type} {merged own : AList fun _ : κ' => β} {shown : ι → AList fun _ : κ' => β}
    {items : List ι} (merges : ∀ key value, merged.lookup key = some value ↔ ShownLast shown items key value) :
    (∀ key, merged.lookup key = own.lookup key) ↔ Covers own shown items := by
  constructor
  · intro same
    constructor
    · intro key value last
      rw [← same key]
      exact (merges key value).mpr last
    · intro key present
      rw [← same key] at present
      obtain ⟨value, found⟩ := Option.ne_none_iff_exists'.mp present
      obtain ⟨before, item, after, rfl, shows, -⟩ := (merges key value).mp found
      refine ⟨item, List.mem_append_right _ (List.mem_cons_self ..), ?_⟩
      rw [shows]
      exact Option.some_ne_none value
  · intro covers key
    cases found : merged.lookup key with
    | some value => exact (covers.last key value ((merges key value).mp found)).symm
    | none =>
      by_contra differs
      obtain ⟨value, last⟩ := exists_shownLast (covers.only key (Ne.symm differs))
      rw [(merges key value).mpr last] at found
      cases found

theorem covers_last {ι : Type} {shown : ι → AList fun _ : κ' => β} (items : List ι) {last : ι}
    (within : ∀ item ∈ items, (shown item).keys ⊆ (shown last).keys) : Covers (shown last) shown (items ++ [last]) := by
  constructor
  · rintro key value ⟨before, item, after, whole, own, silent⟩
    rcases List.eq_nil_or_concat after with rfl | ⟨rest, final, rfl⟩
    · obtain ⟨-, same⟩ := List.append_inj' whole rfl
      rw [List.head_eq_of_cons_eq same]
      exact own
    · rw [List.concat_eq_append, ← List.cons_append, ← List.append_assoc] at whole
      obtain ⟨front, same⟩ := List.append_inj' whole rfl
      have unset := silent final (by rw [List.concat_eq_append]; exact List.mem_append_right _ (List.mem_cons_self ..))
      rw [← List.head_eq_of_cons_eq same] at unset
      have member : item ∈ items := front ▸ List.mem_append_right _ (List.mem_cons_self ..)
      have has : key ∈ shown item := AList.lookup_isSome.mp (by rw [own]; rfl)
      exact absurd (within item member has) (AList.lookup_eq_none.mp unset)
  · intro key present
    exact ⟨last, List.mem_append_right _ (List.mem_cons_self ..), present⟩

section Updates

variable {κ α : Type} [DecidableEq κ] {entries : AList fun _ : κ => α} {changed key : κ} {value given : α}

theorem lookup_insert_cases (found : (entries.insert changed given).lookup key = some value) :
    key = changed ∧ value = given ∨ key ≠ changed ∧ entries.lookup key = some value := by
  by_cases here : key = changed
  · rw [here, AList.lookup_insert] at found
    exact .inl ⟨here, (Option.some.inj found).symm⟩
  · rw [AList.lookup_insert_ne here] at found
    exact .inr ⟨here, found⟩

theorem lookup_erase_cases (found : (entries.erase changed).lookup key = some value) :
    key ≠ changed ∧ entries.lookup key = some value := by
  by_cases here : key = changed
  · rw [here, AList.lookup_erase] at found
    cases found
  · rw [AList.lookup_erase_ne here] at found
    exact ⟨here, found⟩

theorem perm_entries_of_lookup_eq {first second : AList fun _ : κ => α} (same : ∀ key, first.lookup key = second.lookup key) :
    first.entries.Perm second.entries := by
  refine (List.perm_ext_iff_of_nodup first.nodupKeys.nodup second.nodupKeys.nodup).mpr ?_
  rintro ⟨key, value⟩
  rw [← AList.mem_lookup_iff, ← AList.mem_lookup_iff, same key]

end Updates

end MKurator.Lib.Maps
