import MKurator.MqRest.Clauses
import MKurator.MqRest.Response

/-! What is read from the text of a DISPLAY: the lines of one record, and the lines of several records together. -/

namespace MKurator.MqRest
open MKurator.Api MKurator.MqAdmin MKurator.Lib.Strings MKurator.Lib.Mqsc MKurator.Lib.Maps

/-- The text gives these pairs, and the scan stands outside a pair behind it. -/
def Reads (text : List Char) (pairs : List (String × String)) : Prop :=
  ∀ rest, displayPairs .outside (text ++ rest) = pairs ++ displayPairs .outside rest

namespace Reads

theorem pairs_eq {text : List Char} {pairs : List (String × String)} (reads : Reads text pairs) :
    displayPairs .outside text = pairs := by
  have whole := reads []
  rw [List.append_nil] at whole
  rw [whole]
  exact List.append_nil pairs

theorem of_closed {text : List Char} (closed : DisplayScan.outside.after text = .outside) :
    Reads text (displayPairs .outside text) := by
  intro rest
  rw [displayPairs_append, closed]

theorem nil : Reads [] [] := fun _ => rfl

theorem append {front back : List Char} {first second : List (String × String)} (left : Reads front first)
    (right : Reads back second) : Reads (front ++ back) (first ++ second) := by
  intro rest
  rw [List.append_assoc, left, right, List.append_assoc]

theorem flatMap {α : Type} {items : List α} {text : α → List Char} {pairs : α → List (String × String)}
    (each : ∀ item ∈ items, Reads (text item) (pairs item)) : Reads (items.flatMap text) (items.flatMap pairs) := by
  induction items with
  | nil => exact nil
  | cons item items ih =>
    rw [List.flatMap_cons, List.flatMap_cons]
    exact (each item (List.mem_cons_self ..)).append (ih fun other member => each other (List.mem_cons_of_mem _ member))

theorem blank : Reads " ".toList [] := fun _ => rfl

theorem blanks_before {α : Type} {items : List α} {text : α → List Char} {pairs : α → List (String × String)}
    (each : ∀ item ∈ items, Reads (text item) (pairs item)) :
    Reads (items.flatMap fun item => " ".toList ++ text item) (items.flatMap pairs) :=
  flatMap fun item member => blank.append (each item member)

theorem join_blank {α : Type} {items : List α} {text : α → String} {pairs : α → List (String × String)}
    (each : ∀ item ∈ items, Reads (text item).toList (pairs item)) :
    Reads (join (items.map text) " ").toList (items.flatMap pairs) := by
  cases items with
  | nil => exact nil
  | cons item items =>
    rw [List.map_cons, toList_join_cons, List.flatMap_map, List.flatMap_cons]
    exact (each item (List.mem_cons_self ..)).append
      (blanks_before fun other member => each other (List.mem_cons_of_mem _ member))

end Reads

theorem reads_quotedClause {key value : String} (name : isDisplayKey key.toList = true) (unclosed : ')' ∉ value.toList) :
    Reads (quotedClause key value).toList [(key, "'" ++ mqscQuote value ++ "'")] := by
  intro rest
  have quoted : ')' ∉ ("'" ++ mqscQuote value ++ "'").toList := by
    rw [String.toList_append, String.toList_append, toList_mqscQuote, doubleQuotes]
    intro member
    rcases List.mem_append.mp member with inside | last
    · rcases List.mem_append.mp inside with first | doubled
      · exact absurd first (by decide)
      · obtain ⟨c, within, same⟩ := List.mem_flatMap.mp doubled
        split at same
        next => exact absurd same (by decide)
        next => exact unclosed (List.mem_singleton.mp same ▸ within)
    · exact absurd last (by decide)
  have written : (quotedClause key value).toList ++ rest =
      key.toList ++ '(' :: (("'" ++ mqscQuote value ++ "'").toList ++ ')' :: rest) := by
    simp [quotedClause]
  rw [written, displayPairs_pair name quoted rest, String.ofList_toList, String.ofList_toList]
  rfl

theorem displayPairs_unclosed {scan : DisplayScan} {text : List Char} {pair : String × String}
    (open_value : ∀ name read, scan = .value name read → ')' ∉ read) (found : pair ∈ displayPairs scan text) :
    ')' ∉ pair.2.toList := by
  induction text generalizing scan with
  | nil => cases found
  | cons c text ih =>
    rw [displayPairs, List.mem_append] at found
    cases scan with
    | outside =>
      refine ih ?_ (found.resolve_left List.not_mem_nil)
      intro name read same
      rw [DisplayScan.step] at same
      split at same <;> cases same
    | key read =>
      refine ih ?_ (found.resolve_left List.not_mem_nil)
      intro name value same
      rw [DisplayScan.step] at same
      dsimp only at same
      split at same
      · cases same
      · split at same
        · cases same
          exact List.not_mem_nil
        · cases same
    | value name read =>
      have unread := open_value name read rfl
      rw [DisplayScan.step] at found
      split at found
      next =>
        rcases found with here | later
        · obtain rfl := List.mem_singleton.mp here
          rw [String.toList_ofList]
          exact unread
        · refine ih ?_ later
          intro name' read' same
          cases same
      next other =>
        refine ih ?_ (found.resolve_left List.not_mem_nil)
        intro name' read' same
        cases same
        rw [List.mem_append, List.mem_singleton]
        rintro (inside | rfl)
        · exact unread inside
        · exact other rfl

theorem trimBy_mqscQuote_iff (value : String) :
    trimBy (· = '\'') (mqscQuote value) = value ↔ '\'' ∉ value.toList := by
  have doubled : (mqscQuote value).toList = doubleQuotes value.toList := toList_mqscQuote value
  constructor
  · intro same quote
    -- a value that comes back has no quote at its ends, so nothing is trimmed and the doubled quotes stay
    have ends := ends_of_trimBy (same ▸ trimBy_trimBy (· = '\'') (mqscQuote value) : trimBy (· = '\'') value = value)
    have first : ∀ c ∈ (mqscQuote value).toList.head?, decide (c = '\'') = false := by
      rw [doubled]
      cases shape : value.toList with
      | nil =>
        intro c head
        cases head
      | cons c chars =>
        have outer := ends.1 c (by rw [shape]; rfl)
        intro d head
        rw [doubleQuotes, List.flatMap_cons, if_neg (of_decide_eq_false outer), List.singleton_append,
          List.head?_cons] at head
        cases head
        exact outer
    have last : ∀ c ∈ (mqscQuote value).toList.getLast?, decide (c = '\'') = false := by
      rw [doubled]
      cases shape : value.toList using List.reverseRecOn with
      | nil =>
        intro c stop
        cases stop
      | append_singleton chars c =>
        have outer := ends.2 c (by rw [shape, List.getLast?_concat]; rfl)
        intro d stop
        rw [doubleQuotes, List.flatMap_append, List.flatMap_singleton, if_neg (of_decide_eq_false outer),
          List.getLast?_concat] at stop
        cases stop
        exact outer
    rw [trimBy_of_ends first last] at same
    have longer := length_doubleQuotes value.toList
    rw [← doubled, same] at longer
    have some_quote := List.count_pos_iff.mpr quote
    omega
  · intro unquoted
    have same : mqscQuote value = value := by
      rw [← String.toList_inj, doubled]
      exact doubleQuotes_of_unquoted unquoted
    rw [same]
    exact trimBy_of_none _ value fun c inside => decide_eq_false fun quote => unquoted (quote ▸ inside)

theorem trim_quoted (value : String) :
    trimBy (· = '\'') (trimSpace ("'" ++ mqscQuote value ++ "'")) = trimBy (· = '\'') (mqscQuote value) := by
  have written : "'" ++ mqscQuote value ++ "'" = String.ofList ('\'' :: ((mqscQuote value).toList ++ ['\''])) := by
    rw [← String.toList_inj]
    simp
  have first : ∀ c ∈ ('\'' :: ((mqscQuote value).toList ++ ['\''])).head?, isSpace c = false := by
    intro c head
    obtain rfl : '\'' = c := Option.some.inj head
    decide
  have last : ∀ c ∈ ('\'' :: ((mqscQuote value).toList ++ ['\''])).getLast?, isSpace c = false := by
    intro c stop
    rw [← List.cons_append, List.getLast?_concat] at stop
    obtain rfl : '\'' = c := Option.some.inj stop
    decide
  have kept : ∀ text : String, text.toList = '\'' :: ((mqscQuote value).toList ++ ['\'']) → trimSpace text = text := by
    intro text shape
    rw [trimSpace]
    exact trimBy_of_ends (by rw [shape]; exact first) (by rw [shape]; exact last)
  rw [written, kept _ String.toList_ofList]
  exact trimBy_surround (decide_eq_true rfl) _

def displayBody (text : List Char) : List Char :=
  (["details.", "details "].findSome? fun marker => afterFirst marker.toList text).getD text

theorem displayBody_eq_drop (text : List Char) :
    displayBody text = text.drop (text.length - (displayBody text).length) := by
  rw [displayBody]
  cases found : ["details.", "details "].findSome? fun marker => afterFirst marker.toList text with
  | none => rw [Option.getD_none, Nat.sub_self, List.drop_zero]
  | some rest =>
    obtain ⟨marker, -, behind⟩ := List.exists_of_findSome?_eq_some found
    exact exists_drop_of_afterFirst behind

theorem displayBody_headed {heading : List Char} (ends : afterFirst "details.".toList heading = some [])
    (body : List Char) : displayBody (heading ++ body) = body := by
  rw [displayBody, List.findSome?_cons, afterFirst_append _ _ _ ends]
  rfl

def dropAcross : Nat → List (List Char) → List (List Char)
  | _, [] => []
  | n, piece :: pieces => piece.drop n :: dropAcross (n - piece.length) pieces

theorem flatten_dropAcross (n : Nat) (pieces : List (List Char)) :
    (dropAcross n pieces).flatten = pieces.flatten.drop n := by
  induction pieces generalizing n with
  | nil => rw [dropAcross, List.flatten_nil, List.drop_nil]
  | cons piece pieces ih => rw [dropAcross, List.flatten_cons, List.flatten_cons, ih, List.drop_append]

def piecePairs : DisplayScan → List (List Char) → List (List (String × String))
  | _, [] => []
  | scan, piece :: pieces => displayPairs scan piece :: piecePairs (scan.after piece) pieces

theorem flatten_piecePairs (scan : DisplayScan) (pieces : List (List Char)) :
    (piecePairs scan pieces).flatten = displayPairs scan pieces.flatten := by
  induction pieces generalizing scan with
  | nil => rfl
  | cons piece pieces ih => rw [piecePairs, List.flatten_cons, List.flatten_cons, ih, displayPairs_append]

def spacedLines (lines : List String) : List Char := lines.flatMap fun line => ' ' :: line.toList

section Case

variable [UnicodeTables]

def pairEntry (pair : String × String) : Σ _ : String, String := ⟨pair.1, pair.2⟩

/-- The attributes that pairs stand for: names in lower case, values without the quotes around them. -/
def pairAttributes (pairs : List (String × String)) : StringMap :=
  fill toLower (fun _ value => trimBy (· = '\'') (trimSpace value)) (pairs.map pairEntry) ∅

theorem parseMQSCDisplayAttributes_headed {lines : List String} {heading : String} {body : List Char}
    (joined : (join lines " ").toList = heading.toList ++ body)
    (headed : afterFirst "details.".toList heading.toList = some []) :
    parseMQSCDisplayAttributes lines = pairAttributes (displayPairs .outside body) := by
  have first : cutAfter (join lines " ") "details." = some (String.ofList body) := by
    rw [cutAfter, joined, afterFirst_append _ _ _ headed, Option.map_some]
  have cut : ["details.", "details "].findSome? (cutAfter (join lines " ")) = some (String.ofList body) := by
    rw [List.findSome?_cons, first]
  rw [parseMQSCDisplayAttributes]
  simp only [cut, displayPairs_trimSpace, String.toList_ofList]
  rw [pairAttributes, fill, List.foldl_map]
  rfl

/-- The attributes of a record, in the groups that stand on one line each. -/
structure Displayed where
  groups : List (List (String × String))
  keys : ∀ attr ∈ groups.flatten, isDisplayKey attr.1.toList = true
  distinct : (groups.flatten.map Prod.fst).Nodup

namespace Displayed

def heading : String := "AMQ8878I: Display channel authentication record details."

def attributes (record : Displayed) : List (String × String) := record.groups.flatten

def groupLine (group : List (String × String)) : String :=
  join (group.map fun attr => quotedClause attr.1 attr.2) " "

def lines (record : Displayed) : List String := heading :: record.groups.map groupLine

def map (record : Displayed) : StringMap := fill toLower (fun _ value => value) (record.attributes.map pairEntry) ∅

def body (record : Displayed) : List Char := record.groups.flatMap fun group => " ".toList ++ (groupLine group).toList

theorem parse_lines (record : Displayed) :
    parseMQSCDisplayAttributes record.lines = pairAttributes (displayPairs .outside record.body) := by
  have joined : (join record.lines " ").toList = heading.toList ++ record.body := by
    rw [lines, toList_join_cons, List.flatMap_map]
    rfl
  exact parseMQSCDisplayAttributes_headed joined (by decide +kernel)

def quotedPair (attr : String × String) : String × String := (attr.1, "'" ++ mqscQuote attr.2 ++ "'")

omit [UnicodeTables] in
theorem reads_body (record : Displayed) (unclosed : ∀ attr ∈ record.attributes, ')' ∉ attr.2.toList) :
    Reads record.body (record.attributes.map quotedPair) := by
  have flat : record.attributes.map quotedPair =
      record.groups.flatMap fun group => group.flatMap fun attr => [quotedPair attr] := by
    rw [attributes, List.map_flatten, List.flatMap_def]
    refine congrArg List.flatten (List.map_congr_left fun group _ => ?_)
    rw [← List.map_eq_flatMap]
  rw [flat]
  refine Reads.blanks_before fun group line => Reads.join_blank fun attr member => ?_
  have inside : attr ∈ record.attributes := List.mem_flatten.mpr ⟨group, line, member⟩
  exact reads_quotedClause (record.keys attr inside) (unclosed attr inside)

end Displayed

theorem toUpper_toLower_of_displayKey {key : String} (name : isDisplayKey key.toList = true) :
    (toLower key).toList.map Char.toUpper = key.toList := by
  have digits : ∀ c ∈ key.toList, c.isUpper = true ∨ c.isDigit = true := by
    cases shape : key.toList with
    | nil => exact fun c inside => nomatch inside
    | cons c chars =>
      rw [shape, isDisplayKey, Bool.and_eq_true] at name
      intro d inside
      rcases List.mem_cons.mp inside with rfl | later
      · exact .inl name.1
      · exact Bool.or_eq_true_iff.mp (List.all_eq_true.mp name.2 d later)
  have small : ∀ c ∈ key.toList, 48 ≤ c.toNat ∧ c.toNat ≤ 90 := by
    intro c inside
    rcases digits c inside with upper | digit
    · have bounds := (isUpper_iff_toNat c).mp upper
      omega
    · rw [Char.isDigit, Bool.and_eq_true, decide_eq_true_eq, decide_eq_true_eq] at digit
      have low : 48 ≤ c.toNat := digit.1
      have high : c.toNat ≤ 57 := digit.2
      omega
  have plain : key.toList.all isPlain = true := by
    rw [List.all_eq_true]
    intro c inside
    have bounds := small c inside
    rw [isPlain, Bool.or_eq_true]
    exact .inl (decide_eq_true (by omega))
  rw [toLower_of_plain key plain, String.toList_ofList, List.map_map]
  conv_rhs => rw [← List.map_id key.toList]
  refine List.map_congr_left fun c inside => toUpper_toLower_of_not_lower c ?_
  have bounds := small c inside
  by_contra lower
  rw [Bool.not_eq_false, isLower_iff_toNat] at lower
  omega

namespace Displayed

theorem eq_of_toLower_key (record : Displayed) {first second : String × String} (left : first ∈ record.attributes)
    (right : second ∈ record.attributes) (same : toLower first.1 = toLower second.1) : first = second := by
  have keys : first.1 = second.1 := by
    rw [← String.toList_inj, ← toUpper_toLower_of_displayKey (record.keys first left), same,
      toUpper_toLower_of_displayKey (record.keys second right)]
  exact List.inj_on_of_nodup_map record.distinct left right keys

theorem lookup_map (record : Displayed) {attr : String × String} (member : attr ∈ record.attributes) :
    record.map.lookup (toLower attr.1) = some attr.2 := by
  have listed : pairEntry attr ∈ record.attributes.map pairEntry := List.mem_map_of_mem member
  apply lookup_fill listed
  intro other inside same
  obtain ⟨second, within, rfl⟩ := List.mem_map.mp inside
  rw [record.eq_of_toLower_key within member same]

theorem lookup_quoted (record : Displayed) {attr : String × String} (member : attr ∈ record.attributes) :
    (pairAttributes (record.attributes.map quotedPair)).lookup (toLower attr.1) =
      some (trimBy (· = '\'') (mqscQuote attr.2)) := by
  have unquoted : trimBy (· = '\'') (trimSpace (quotedPair attr).2) = trimBy (· = '\'') (mqscQuote attr.2) := trim_quoted _
  rw [pairAttributes, List.map_map, ← unquoted]
  have listed : (pairEntry ∘ quotedPair) attr ∈ record.attributes.map (pairEntry ∘ quotedPair) :=
    List.mem_map_of_mem member
  apply lookup_fill listed
  intro other inside same
  obtain ⟨second, within, rfl⟩ := List.mem_map.mp inside
  rw [record.eq_of_toLower_key within member same]

/-- The decoder gives back what was rendered exactly when no value has a closing parenthesis or a quote. -/
theorem parse_lines_iff (record : Displayed) :
    (∀ key, (parseMQSCDisplayAttributes record.lines).lookup key = record.map.lookup key) ↔
      ∀ attr ∈ record.attributes, ')' ∉ attr.2.toList ∧ '\'' ∉ attr.2.toList := by
  constructor
  · intro exact_map
    have unclosed : ∀ attr ∈ record.attributes, ')' ∉ attr.2.toList := by
      intro attr member close
      have found := (exact_map (toLower attr.1)).trans (record.lookup_map member)
      rw [parse_lines] at found
      rcases lookup_fill_cases found with empty | ⟨entry, inside, -, value⟩
      · cases empty
      · obtain ⟨pair, within, rfl⟩ := List.mem_map.mp inside
        rw [← value] at close
        have outside : ∀ name read, DisplayScan.outside = .value name read → ')' ∉ read := by
          intro name read same
          cases same
        exact displayPairs_unclosed outside within (of_mem_trimBy (of_mem_trimBy close))
    intro attr member
    refine ⟨unclosed attr member, (trimBy_mqscQuote_iff attr.2).mp ?_⟩
    have found := (exact_map (toLower attr.1)).trans (record.lookup_map member)
    rw [parse_lines, (record.reads_body unclosed).pairs_eq, record.lookup_quoted member] at found
    exact Option.some.inj found
  · intro plain key
    rw [parse_lines, (record.reads_body fun attr member => (plain attr member).1).pairs_eq]
    have same : pairAttributes (record.attributes.map quotedPair) = record.map := by
      rw [pairAttributes, map, fill, fill, List.map_map, List.foldl_map, List.foldl_map]
      refine List.foldl_ext _ _ _ fun filled attr member => ?_
      have unquoted := (trimBy_mqscQuote_iff attr.2).mpr (plain attr member).2
      rw [Function.comp_apply]
      exact congrArg (filled.insert (toLower attr.1)) ((trim_quoted attr.2).trans unquoted)
    rw [same]

end Displayed

end Case

section Cases

attribute [local instance] asciiTables

def partnerRecord : Displayed where
  groups := [[("CHLAUTH", "PARTNER.SVRCONN"), ("TYPE", "BLOCKUSER")], [("DESCR", "Partner (EU) access"), ("USERLIST", "o'neil")]]
  keys := by decide +kernel
  distinct := by decide +kernel

/-- The description ends at its parenthesis, and the quote of the user comes back twice. -/
theorem partnerRecord_misread :
    (parseMQSCDisplayAttributes partnerRecord.lines).lookup "descr" = some "Partner (EU" ∧
      partnerRecord.map.lookup "descr" = some "Partner (EU) access" ∧
      (parseMQSCDisplayAttributes partnerRecord.lines).lookup "userlist" = some "o''neil" ∧
      partnerRecord.map.lookup "userlist" = some "o'neil" := by
  rw [Displayed.parse_lines]
  decide +kernel

end Cases

section Case

variable [UnicodeTables]

theorem parseMQSCDisplayAttributes_eq (lines : List String) :
    parseMQSCDisplayAttributes lines = pairAttributes (displayPairs .outside (displayBody (spacedLines lines))) := by
  cases lines with
  | nil => rfl
  | cons line lines =>
    generalize joined : join (line :: lines) " " = combined
    have spaced : spacedLines (line :: lines) = ' ' :: combined.toList := by
      rw [← joined, toList_join_cons]
      rfl
    -- no marker starts with the blank in front
    have start : ∀ marker ∈ ["details.", "details "],
        afterFirst marker.toList (' ' :: combined.toList) = afterFirst marker.toList combined.toList := by
      intro marker member
      rcases List.mem_cons.mp member with rfl | second
      · exact afterFirst_cons_of_ne (by decide)
      · obtain rfl := List.mem_singleton.mp second
        exact afterFirst_cons_of_ne (by decide)
    have body : displayBody (' ' :: combined.toList) = (["details.", "details "].findSome? fun marker =>
        afterFirst marker.toList combined.toList).getD (' ' :: combined.toList) := by
      rw [displayBody]
      simp only [List.findSome?_cons, start "details." (by decide), start "details " (by decide),
        List.findSome?_nil]
    have cut : ["details.", "details "].findSome? (cutAfter combined) =
        (["details.", "details "].findSome? fun marker => afterFirst marker.toList combined.toList).map String.ofList := by
      rw [List.map_findSome?]
      rfl
    rw [parseMQSCDisplayAttributes, spaced, body, pairAttributes, fill, List.foldl_map]
    simp only [joined, cut]
    cases ["details.", "details "].findSome? fun marker => afterFirst marker.toList combined.toList with
    | none => rfl
    | some rest =>
      simp only [Option.map_some, Option.getD_some, displayPairs_trimSpace, String.toList_ofList]
      rfl

namespace CommandResponseItem

def parameterAttributes (item : CommandResponseItem) : StringMap :=
  fill toLower (fun _ value => JsonValue.sprint value) item.parameters.entries ∅

def lines (item : CommandResponseItem) : List String := item.text ++ item.message

def textAttributes (item : CommandResponseItem) : StringMap := parseMQSCDisplayAttributes item.lines

/-- The lines start with a heading without pairs up to the marker, and leave no pair open. -/
structure Marked (item : CommandResponseItem) : Prop where
  headed : ∃ heading body, spacedLines item.lines = heading ++ body ∧ afterFirst "details.".toList heading = some [] ∧
    Reads heading []
  closed : ∃ pairs, Reads (spacedLines item.lines) pairs

def ownPairs (item : CommandResponseItem) : List (String × String) :=
  displayPairs .outside (displayBody (spacedLines item.lines))

omit [UnicodeTables] in
theorem Marked.reads {item : CommandResponseItem} (marked : item.Marked) :
    Reads (spacedLines item.lines) item.ownPairs := by
  obtain ⟨heading, body, whole, ends, silent⟩ := marked.headed
  obtain ⟨pairs, reads⟩ := marked.closed
  have own : item.ownPairs = pairs := by
    rw [ownPairs, whole, displayBody_headed ends]
    rw [whole] at reads
    exact (silent body).symm.trans reads.pairs_eq
  rw [own]
  exact reads

theorem textAttributes_eq (item : CommandResponseItem) : item.textAttributes = pairAttributes item.ownPairs :=
  parseMQSCDisplayAttributes_eq item.lines

end CommandResponseItem

namespace MqscResponse

/-- The part of each item in the text that is read, behind the marker of the whole. -/
def textParts (r : MqscResponse) : List (List Char) :=
  let pieces := r.commandResponse.map fun item => spacedLines item.lines
  dropAcross (pieces.flatten.length - (displayBody pieces.flatten).length) pieces

def partPairs (r : MqscResponse) : List (List (String × String)) := piecePairs .outside r.textParts

theorem displayTextAttributes_eq (r : MqscResponse) :
    r.displayTextAttributes = pairAttributes r.partPairs.flatten := by
  have whole : spacedLines (r.commandResponse.flatMap CommandResponseItem.lines) =
      (r.commandResponse.map fun item => spacedLines item.lines).flatten := by
    rw [spacedLines, List.flatMap_assoc, List.flatMap_def]
    rfl
  rw [partPairs, flatten_piecePairs, textParts, flatten_dropAcross, ← displayBody_eq_drop, ← whole]
  exact parseMQSCDisplayAttributes_eq _

/-- Of marked items the whole text shows what their own lines show, though only the first marker is cut off. -/
theorem displayTextAttributes_of_marked {r : MqscResponse} (marked : ∀ item ∈ r.commandResponse, item.Marked) :
    r.displayTextAttributes = pairAttributes (r.commandResponse.flatMap CommandResponseItem.ownPairs) := by
  have reads := Reads.flatMap fun item member => (marked item member).reads
  have whole : spacedLines (r.commandResponse.flatMap fun item => item.text ++ item.message) =
      r.commandResponse.flatMap fun item => spacedLines item.lines := List.flatMap_assoc
  refine (parseMQSCDisplayAttributes_eq _).trans (congrArg pairAttributes ?_)
  rw [whole, ← reads.pairs_eq]
  cases shape : r.commandResponse with
  | nil => rfl
  | cons item items =>
    obtain ⟨heading, body, own, ends, silent⟩ := (marked item (shape ▸ List.mem_cons_self ..)).headed
    rw [List.flatMap_cons, own, List.append_assoc, displayBody_headed ends, silent]
    rfl

theorem lookup_displayTextAttributes (r : MqscResponse) (key value : String) :
    r.displayTextAttributes.lookup key = some value ↔ ShownLast pairAttributes r.partPairs key value := by
  rw [displayTextAttributes_eq, pairAttributes, List.map_flatten, ← List.flatMap_def]
  exact lookup_fill_flatMap_iff _ _ key value

theorem lookup_displayTextAttributes_of_marked {r : MqscResponse} (marked : ∀ item ∈ r.commandResponse, item.Marked)
    (key value : String) :
    r.displayTextAttributes.lookup key = some value ↔
      ShownLast CommandResponseItem.textAttributes r.commandResponse key value := by
  have own : CommandResponseItem.textAttributes = fun item => pairAttributes item.ownPairs :=
    funext CommandResponseItem.textAttributes_eq
  rw [displayTextAttributes_of_marked marked, own, pairAttributes, List.map_flatMap]
  exact lookup_fill_flatMap_iff _ _ key value

theorem lookup_firstObjectAttributes {r : MqscResponse} {attrs : StringMap} (read : r.firstObjectAttributes = .ok attrs)
    (key value : String) :
    attrs.lookup key = some value ↔ ShownLast CommandResponseItem.parameterAttributes r.commandResponse key value := by
  have filled : attrs = fill toLower (fun _ value => JsonValue.sprint value)
      (r.commandResponse.flatMap fun item => item.parameters.entries) ∅ := by
    rw [firstObjectAttributes] at read
    split at read
    · cases read
    · dsimp only at read
      split at read
      · split at read <;> cases read
      · cases read
        exact List.foldl_flatMap.symm
  rw [filled]
  exact lookup_fill_flatMap_iff _ _ key value

/-- The parameters that are read are those of one item and, of a response in text only, so are the attributes. -/
structure OneRecord (r : MqscResponse) : Prop where
  parameters : ∃ attrs, r.firstObjectAttributes = .ok attrs ∧
    ∃ item ∈ r.commandResponse, ∀ key, attrs.lookup key = item.parameterAttributes.lookup key
  text : (∀ item ∈ r.commandResponse, item.parameters.entries = []) →
    ∃ item ∈ r.commandResponse, ∀ key, r.displayTextAttributes.lookup key = item.textAttributes.lookup key

theorem oneRecord_iff_covers {r : MqscResponse} (success : r.overallFailed = false) (items : r.commandResponse ≠ [])
    {ι : Type} {shown : ι → StringMap} {parts : List ι}
    (merges : ∀ key value, r.displayTextAttributes.lookup key = some value ↔ ShownLast shown parts key value) :
    r.OneRecord ↔
      (∃ item ∈ r.commandResponse,
        Covers item.parameterAttributes CommandResponseItem.parameterAttributes r.commandResponse) ∧
      ((∀ item ∈ r.commandResponse, item.parameters.entries = []) →
        ∃ item ∈ r.commandResponse, Covers item.textAttributes shown parts) := by
  obtain ⟨attrs, read⟩ := firstObjectAttributes_of_success success items
  have entered : ∀ item : CommandResponseItem, (∀ key, attrs.lookup key = item.parameterAttributes.lookup key) ↔
      Covers item.parameterAttributes CommandResponseItem.parameterAttributes r.commandResponse :=
    fun item => lookup_eq_iff_covers (lookup_firstObjectAttributes read)
  have written : ∀ item : CommandResponseItem,
      (∀ key, r.displayTextAttributes.lookup key = item.textAttributes.lookup key) ↔ Covers item.textAttributes shown parts :=
    fun item => lookup_eq_iff_covers merges
  constructor
  · rintro ⟨⟨attrs', again, item, member, same⟩, text⟩
    obtain rfl : attrs = attrs' := Except.ok.inj (read.symm.trans again)
    refine ⟨⟨item, member, (entered item).mp same⟩, fun only_text => ?_⟩
    obtain ⟨other, inside, equal⟩ := text only_text
    exact ⟨other, inside, (written other).mp equal⟩
  · rintro ⟨⟨item, member, covers⟩, text⟩
    refine ⟨⟨attrs, read, item, member, (entered item).mpr covers⟩, fun only_text => ?_⟩
    obtain ⟨other, inside, covers'⟩ := text only_text
    exact ⟨other, inside, (written other).mpr covers'⟩

/-- No record is blended exactly when one item has what any item shows, as the last one shows it. What the items show in
text depends on where the joined text is cut, and is what each one's own lines show if they are all marked. -/
theorem oneRecord_iff {r : MqscResponse} (success : r.overallFailed = false) (items : r.commandResponse ≠ []) :
    (r.OneRecord ↔
      (∃ item ∈ r.commandResponse,
        Covers item.parameterAttributes CommandResponseItem.parameterAttributes r.commandResponse) ∧
      ((∀ item ∈ r.commandResponse, item.parameters.entries = []) →
        ∃ item ∈ r.commandResponse, Covers item.textAttributes pairAttributes r.partPairs)) ∧
    ((∀ item ∈ r.commandResponse, item.Marked) →
      (r.OneRecord ↔
        (∃ item ∈ r.commandResponse,
          Covers item.parameterAttributes CommandResponseItem.parameterAttributes r.commandResponse) ∧
        ((∀ item ∈ r.commandResponse, item.parameters.entries = []) →
          ∃ item ∈ r.commandResponse,
            Covers item.textAttributes CommandResponseItem.textAttributes r.commandResponse))) :=
  ⟨oneRecord_iff_covers success items r.lookup_displayTextAttributes,
    fun marked => oneRecord_iff_covers success items (lookup_displayTextAttributes_of_marked marked)⟩

end MqscResponse

end Case

section Cases

attribute [local instance] asciiTables

/-- Two rules that one generic channel name matches: only the first maps a user, only the second blocks. -/
def mappedRule : AList fun _ : String => JsonValue :=
  (((∅ : AList fun _ : String => JsonValue).insert "mcauser" (.text "app")).insert "chlauth" (.text "ORDERS.*"))

def blockedRule : AList fun _ : String => JsonValue :=
  (((∅ : AList fun _ : String => JsonValue).insert "usersrc" (.text "NOACCESS")).insert "chlauth" (.text "ORDERS.EU"))

def matchingRules : MqscResponse where
  commandResponse := [⟨0, [], [], mappedRule⟩, ⟨0, [], [], blockedRule⟩]
  overallCompletionCode := 0
  error := []

def ruleText (line : String) : CommandResponseItem := ⟨0, [], [Displayed.heading, line], ∅⟩

def matchingRuleTexts : MqscResponse where
  commandResponse := [ruleText "CHLAUTH(ORDERS.*) MCAUSER(app)", ruleText "CHLAUTH(ORDERS.EU) USERSRC(NOACCESS)"]
  overallCompletionCode := 0
  error := []

/-- The blend of the two rules blocks a user that it also maps. -/
theorem matchingRules_blended :
    matchingRules.overallFailed = false ∧ ¬matchingRules.OneRecord ∧
      matchingRuleTexts.overallFailed = false ∧ ¬matchingRuleTexts.OneRecord := by
  refine ⟨by decide, ?_, by decide, ?_⟩
  · rintro ⟨⟨attrs, read, item, member, same⟩, -⟩
    obtain rfl := Except.ok.inj read
    have user := same "mcauser"
    have source := same "usersrc"
    rcases List.mem_cons.mp member with rfl | second
    · exact absurd source (by decide +kernel)
    · obtain rfl := List.mem_singleton.mp second
      exact absurd user (by decide +kernel)
  · rintro ⟨-, text⟩
    obtain ⟨item, member, same⟩ := text (by decide +kernel)
    have user := same "mcauser"
    have source := same "usersrc"
    rw [MqscResponse.displayTextAttributes, CommandResponseItem.textAttributes, parseMQSCDisplayAttributes_eq,
      parseMQSCDisplayAttributes_eq] at user source
    rcases List.mem_cons.mp member with rfl | second
    · exact absurd source (by decide +kernel)
    · obtain rfl := List.mem_singleton.mp second
      exact absurd user (by decide +kernel)

def singleRule : MqscResponse := { matchingRules with commandResponse := [⟨0, [], [], mappedRule⟩] }

def repeatedRuleText : MqscResponse := { matchingRuleTexts with
  commandResponse := [ruleText "CHLAUTH(ORDERS.*)", ruleText "CHLAUTH(ORDERS.*) MCAUSER(app)"] }

theorem ruleText_marked {line : String} (closed : DisplayScan.outside.after line.toList = .outside) :
    (ruleText line).Marked := by
  have heading : Reads (' ' :: Displayed.heading.toList) [] := Reads.of_closed rfl
  have behind := Reads.blank.append (.of_closed closed)
  have whole : spacedLines (ruleText line).lines = ' ' :: Displayed.heading.toList ++ (" ".toList ++ line.toList) := by
    simp [spacedLines, ruleText, CommandResponseItem.lines]
  have reads := heading.append behind
  rw [← whole] at reads
  exact ⟨⟨_, _, whole, by decide +kernel, heading⟩, ⟨_, reads⟩⟩

theorem oneRecord_singleRule : singleRule.OneRecord ∧ repeatedRuleText.OneRecord := by
  constructor
  · refine (MqscResponse.oneRecord_iff (by decide) (by decide)).1.mpr ⟨⟨_, List.mem_singleton.mpr rfl, ?_⟩, ?_⟩
    · exact covers_last [] nofun
    · intro only_text
      exact absurd (only_text _ (List.mem_singleton.mpr rfl)) (by decide +kernel)
  · have marked : ∀ item ∈ repeatedRuleText.commandResponse, item.Marked := by
      intro item member
      rcases List.mem_cons.mp member with rfl | second
      · exact ruleText_marked rfl
      · exact List.mem_singleton.mp second ▸ ruleText_marked rfl
    have last : ruleText "CHLAUTH(ORDERS.*) MCAUSER(app)" ∈ repeatedRuleText.commandResponse :=
      List.mem_cons_of_mem _ (List.mem_cons_self ..)
    refine ((MqscResponse.oneRecord_iff (by decide) (by decide)).2 marked).mpr ⟨⟨_, last, ?_⟩, fun _ => ⟨_, last, ?_⟩⟩
    · refine covers_last [ruleText "CHLAUTH(ORDERS.*)"] fun item member => ?_
      obtain rfl := List.mem_singleton.mp member
      decide +kernel
    · refine covers_last [ruleText "CHLAUTH(ORDERS.*)"] fun item member => ?_
      obtain rfl := List.mem_singleton.mp member
      rw [CommandResponseItem.textAttributes_eq, CommandResponseItem.textAttributes_eq]
      decide +kernel

end Cases

end MKurator.MqRest
