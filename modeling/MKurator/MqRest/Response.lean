import MKurator.Lib.Maps
import MKurator.MqRest.Command

/-! The answer to an MQSC request: when it counts as failed, when it says that the object is missing, and which
attributes it shows. -/

namespace MKurator.MqRest
open MKurator.Api MKurator.MqAdmin MKurator.Lib.Strings MKurator.Lib.Maps

/-- A value of a decoded `map[string]any`. A number is an integer that a `float64` holds exactly; any other value is
given by what `fmt.Sprint` prints for it. -/
inductive JsonValue where
  | text (value : String)
  | number (value : Int)
  | other (printed : String)
  deriving DecidableEq, Repr

/-- `%v` of a whole `float64`: from seven digits on it takes the exponent form. -/
def sprintFloat (n : Int) : String :=
  let digits := Nat.toDigits 10 n.natAbs
  let sign := if n < 0 then "-" else ""
  if digits.length ≤ 6 then sign ++ String.ofList digits
  else
    let fraction := (digits.tail.reverse.dropWhile (· = '0')).reverse
    let exponent := digits.length - 1
    sign ++ String.ofList (digits.take 1 ++ (if fraction = [] then [] else '.' :: fraction)) ++ "e+" ++
      (if exponent < 10 then "0" else "") ++ toString exponent

theorem sprintFloat_of_short (n : Nat) (short : n < 10 ^ 6) : sprintFloat n = toString (n : Int) := by
  have digits : (Nat.toDigits 10 n).length ≤ 6 := (Nat.length_toDigits_le_iff (by decide) (by decide)).mpr short
  have positive : ¬(n : Int) < 0 := by omega
  rw [← String.toList_inj, toList_toString_int, if_neg positive, sprintFloat]
  simp only [Int.natAbs_natCast, if_pos digits, if_neg positive, String.toList_append, String.toList_ofList]
  rfl

theorem sprintFloat_of_long (n : Nat) (long : 10 ^ 6 ≤ n) : 'e' ∈ (sprintFloat n).toList := by
  have digits : ¬(Nat.toDigits 10 n).length ≤ 6 := by
    rw [Nat.length_toDigits_le_iff (by decide) (by decide)]
    omega
  rw [sprintFloat]
  simp only [Int.natAbs_natCast, if_neg digits, String.toList_append]
  simp

def JsonValue.sprint : JsonValue → String
  | .text value => value
  | .number n => sprintFloat n
  | .other printed => printed

structure CommandResponseItem where
  completionCode : Int
  message : List String
  text : List String
  parameters : AList fun _ : String => JsonValue

structure RestErrorItem where
  message : String
  explanation : String
  deriving DecidableEq, Repr

structure MqscResponse where
  commandResponse : List CommandResponseItem
  overallCompletionCode : Int
  error : List RestErrorItem

def objectMissingCodes : List String := ["AMQ8147", "AMQ8101", "AMQ8884", "AMQ8958"]

inductive DisplayScan where
  | outside
  | key (read : List Char)
  | value (name read : List Char)
  deriving DecidableEq, Repr

/-- One character of `([A-Z][A-Z0-9]*)\(([^)]*)\)`, with the pair that it completes. -/
def DisplayScan.step : DisplayScan → Char → DisplayScan × Option (String × String)
  | .outside, c => (if c.isUpper then .key [c] else .outside, none)
  | .key read, c =>
    (if c.isUpper || c.isDigit then .key (read ++ [c]) else if c = '(' then .value read [] else .outside, none)
  | .value name read, c =>
    if c = ')' then (.outside, some (String.ofList name, String.ofList read)) else (.value name (read ++ [c]), none)

/-- `mqscDisplayPair.FindAllStringSubmatch`: the leftmost matches that do not overlap. -/
def displayPairs : DisplayScan → List Char → List (String × String)
  | _, [] => []
  | scan, c :: cs => (scan.step c).2.toList ++ displayPairs (scan.step c).1 cs

def DisplayScan.after (scan : DisplayScan) (text : List Char) : DisplayScan :=
  text.foldl (fun scan c => (scan.step c).1) scan

theorem displayPairs_append (scan : DisplayScan) (front back : List Char) :
    displayPairs scan (front ++ back) = displayPairs scan front ++ displayPairs (scan.after front) back := by
  induction front generalizing scan with
  | nil => rfl
  | cons c front ih =>
    rw [List.cons_append, displayPairs, displayPairs, ih, List.append_assoc]
    rfl

theorem displayPairs_of_no_close (scan : DisplayScan) (text : List Char) (none : ')' ∉ text) :
    displayPairs scan text = [] := by
  induction text generalizing scan with
  | nil => rfl
  | cons c text ih =>
    have first : ')' ≠ c := fun same => none (same ▸ List.mem_cons_self ..)
    have rest : ')' ∉ text := fun member => none (List.mem_cons_of_mem _ member)
    rw [displayPairs, ih _ rest, List.append_nil]
    cases scan with
    | outside => rfl
    | key read => rfl
    | value name read => rw [DisplayScan.step, if_neg (Ne.symm first)]; rfl

theorem displayPairs_outside_blank (blanks text : List Char) (blank : ∀ c ∈ blanks, isSpace c = true) :
    displayPairs .outside (blanks ++ text) = displayPairs .outside text := by
  induction blanks with
  | nil => rfl
  | cons c blanks ih =>
    have lower : c.isUpper = false := by
      by_contra upper
      rw [Bool.not_eq_false, isUpper_iff_toNat] at upper
      have space := blank c (List.mem_cons_self ..)
      rw [isSpace_of_visible (by omega) (by omega)] at space
      cases space
    rw [List.cons_append, displayPairs, DisplayScan.step, lower]
    exact ih fun c member => blank c (List.mem_cons_of_mem _ member)

theorem displayPairs_trimSpace (text : String) :
    displayPairs .outside (trimSpace text).toList = displayPairs .outside text.toList := by
  have ends : (trimSpace text).toList ++ (text.toList.dropWhile isSpace).rtakeWhile isSpace =
      text.toList.dropWhile isSpace := by
    rw [trimSpace, trimBy, String.toList_ofList]
    exact List.rdropWhile_append_rtakeWhile
  have quiet : ')' ∉ (text.toList.dropWhile isSpace).rtakeWhile isSpace := by
    intro member
    have space := List.mem_rtakeWhile_imp member
    exact absurd space (by decide)
  calc displayPairs .outside (trimSpace text).toList
      = displayPairs .outside (text.toList.dropWhile isSpace) := by
        rw [← ends, displayPairs_append, displayPairs_of_no_close _ _ quiet, List.append_nil]
    _ = displayPairs .outside (text.toList.takeWhile isSpace ++ text.toList.dropWhile isSpace) :=
        (displayPairs_outside_blank _ _ fun c member => List.mem_takeWhile_imp member).symm
    _ = displayPairs .outside text.toList := by rw [List.takeWhile_append_dropWhile]

/-- `[A-Z][A-Z0-9]*` -/
def isDisplayKey : List Char → Bool
  | [] => false
  | c :: cs => c.isUpper && cs.all fun c => c.isUpper || c.isDigit

theorem displayPairs_key (read name text : List Char) (allowed : name.all (fun c => c.isUpper || c.isDigit) = true) :
    displayPairs (.key read) (name ++ text) = displayPairs (.key (read ++ name)) text := by
  induction name generalizing read with
  | nil => rw [List.nil_append, List.append_nil]
  | cons c name ih =>
    obtain ⟨first, rest⟩ := Bool.and_eq_true_iff.mp (List.all_cons ▸ allowed)
    rw [List.cons_append, displayPairs, DisplayScan.step, if_pos first]
    rw [Option.toList_none, List.nil_append, ih _ rest, List.append_assoc, List.singleton_append]

theorem displayPairs_value (name read value text : List Char) (unclosed : ')' ∉ value) :
    displayPairs (.value name read) (value ++ ')' :: text) =
      (String.ofList name, String.ofList (read ++ value)) :: displayPairs .outside text := by
  induction value generalizing read with
  | nil =>
    rw [List.nil_append, displayPairs, DisplayScan.step, if_pos rfl, List.append_nil]
    rfl
  | cons c value ih =>
    have first : ')' ≠ c := fun same => unclosed (same ▸ List.mem_cons_self ..)
    have rest : ')' ∉ value := fun member => unclosed (List.mem_cons_of_mem _ member)
    rw [List.cons_append, displayPairs, DisplayScan.step, if_neg (Ne.symm first)]
    rw [Option.toList_none, List.nil_append, ih _ rest, List.append_assoc, List.singleton_append]

theorem displayPairs_pair {name : List Char} (key : isDisplayKey name = true) {value : List Char}
    (unclosed : ')' ∉ value) (text : List Char) :
    displayPairs .outside (name ++ '(' :: (value ++ ')' :: text)) =
      (String.ofList name, String.ofList value) :: displayPairs .outside text := by
  cases name with
  | nil => cases key
  | cons c name =>
    obtain ⟨upper, rest⟩ := Bool.and_eq_true_iff.mp key
    rw [List.cons_append, displayPairs, DisplayScan.step, if_pos upper]
    rw [Option.toList_none, List.nil_append, displayPairs_key _ _ _ rest, displayPairs]
    exact displayPairs_value (c :: name) [] value text unclosed

section Case

variable [UnicodeTables]

def parseMQSCDisplayAttributes (lines : List String) : StringMap :=
  let combined := join lines " "
  let body := match ["details.", "details "].findSome? (cutAfter combined) with
    | some rest => trimSpace rest
    | none => combined
  (displayPairs .outside body.toList).foldl
    (fun attrs (key, value) => attrs.insert (toLower key) (trimBy (· = '\'') (trimSpace value))) ∅

theorem parseMQSCDisplayAttributes_last {lines : List String} {heading attributes value : String} {name : List Char}
    (joined : join lines " " = heading ++ attributes ++ String.ofList (name ++ '(' :: (value.toList ++ [')'])))
    (headed : afterFirst "details.".toList heading.toList = some [])
    (closed : DisplayScan.outside.after attributes.toList = .outside) (key : isDisplayKey name = true)
    (unclosed : ')' ∉ value.toList) :
    (parseMQSCDisplayAttributes lines).get (toLower (String.ofList name)) =
      trimBy (· = '\'') (trimSpace value) := by
  have cut : ["details.", "details "].findSome? (cutAfter (join lines " ")) =
      some (attributes ++ String.ofList (name ++ '(' :: (value.toList ++ [')']))) := by
    have first : cutAfter (join lines " ") "details." =
        some (attributes ++ String.ofList (name ++ '(' :: (value.toList ++ [')']))) := by
      rw [cutAfter, joined, String.append_assoc, String.toList_append,
        afterFirst_append _ _ _ headed, Option.map_some, String.ofList_toList]
    rw [List.findSome?_cons, first]
  have pairs : displayPairs .outside
      (trimSpace (attributes ++ String.ofList (name ++ '(' :: (value.toList ++ [')'])))).toList =
      displayPairs .outside attributes.toList ++ [(String.ofList name, value)] := by
    rw [displayPairs_trimSpace, String.toList_append, displayPairs_append, closed, String.toList_ofList,
      displayPairs_pair key unclosed [], String.ofList_toList]
    rfl
  rw [parseMQSCDisplayAttributes]
  simp only [cut, pairs]
  rw [List.foldl_append, List.foldl_cons, List.foldl_nil, StringMap.get, AList.lookup_insert]
  rfl

namespace MqscResponse

def overallFailed (r : MqscResponse) : Bool :=
  r.overallCompletionCode != 0 || r.commandResponse.any (·.completionCode != 0) || !r.error.isEmpty

/-- The test that `isObjectMissing` makes of one line. -/
def lineSaysMissing (line : String) : Bool :=
  objectMissingCodes.any (contains (toUpper line)) || contains (toLower line) "not found"

def isObjectMissing (r : MqscResponse) : Bool :=
  r.commandResponse.any fun item => (item.message ++ item.text).any lineSaysMissing

def firstMessage (r : MqscResponse) : String :=
  match r.commandResponse.findSome? fun item => (item.message ++ item.text).head? with
  | some line => line
  | none => match r.error with
    | first :: _ => first.message
    | [] => "unknown mqsc error"

def terminalError (r : MqscResponse) (message : String) : MqError :=
  .terminal .mqscError (message ++ ": " ++ r.firstMessage)

def firstObjectAttributes (r : MqscResponse) : Except MqError StringMap :=
  if r.commandResponse = [] then .error (.notFound "")
  else
    let attrs := r.commandResponse.foldl (fun attrs item =>
      item.parameters.entries.foldl (fun attrs ⟨k, v⟩ => attrs.insert (toLower k) v.sprint) attrs) (∅ : StringMap)
    if attrs.entries = [] ∧ r.overallFailed = true then
      if r.isObjectMissing then .error (.notFound "") else .error (r.terminalError "display object")
    else .ok attrs

def parameterEntries (r : MqscResponse) : List (Σ _ : String, JsonValue) :=
  r.commandResponse.flatMap fun item => item.parameters.entries

theorem firstObjectAttributes_of_shown {r : MqscResponse} {entry : Σ _ : String, JsonValue}
    (shown : entry ∈ r.parameterEntries)
    (agree : ∀ other ∈ r.parameterEntries, toLower other.1 = toLower entry.1 → other.2.sprint = entry.2.sprint) :
    ∃ attrs, r.firstObjectAttributes = .ok attrs ∧ attrs.lookup (toLower entry.1) = some entry.2.sprint := by
  have stored : (fill toLower (fun _ value => value.sprint) r.parameterEntries ∅).lookup (toLower entry.1) =
      some entry.2.sprint := @lookup_fill _ _ _ _ _ toLower (fun _ value => JsonValue.sprint value) _ ∅ _ shown agree
  refine ⟨_, ?_, stored⟩
  have items : r.commandResponse ≠ [] := by
    intro none
    rw [parameterEntries, none] at shown
    cases shown
  have folded : r.commandResponse.foldl (fun attrs item => item.parameters.entries.foldl
      (fun (attrs : StringMap) entry => attrs.insert (toLower entry.1) entry.2.sprint) attrs) ∅ =
      fill toLower (fun _ value => value.sprint) r.parameterEntries ∅ := List.foldl_flatMap.symm
  have filled : ¬(fill toLower (fun _ (value : JsonValue) => value.sprint) r.parameterEntries
      (∅ : StringMap)).entries = [] := by
    intro none
    have found := AList.mem_lookup_iff.mp stored
    rw [none] at found
    cases found
  rw [firstObjectAttributes, if_neg items]
  simp only [folded]
  rw [if_neg fun both => filled both.1]

theorem firstObjectAttributes_of_success {r : MqscResponse} (success : r.overallFailed = false)
    (items : r.commandResponse ≠ []) : ∃ attrs, r.firstObjectAttributes = .ok attrs := by
  rw [firstObjectAttributes, if_neg items, success]
  refine ⟨_, if_neg ?_⟩
  rintro ⟨-, failed⟩
  cases failed

theorem firstObjectAttributes_single {r : MqscResponse} {item : CommandResponseItem}
    (single : r.commandResponse = [item]) (success : r.overallFailed = false) :
    r.firstObjectAttributes = .ok (fill toLower (fun _ value => value.sprint) item.parameters.entries ∅) := by
  rw [firstObjectAttributes, if_neg (by rw [single]; exact List.cons_ne_nil _ _), success, single]
  simp only [Bool.false_eq_true, and_false, if_false, List.foldl_cons, List.foldl_nil]
  rfl

def displayTextAttributes (r : MqscResponse) : StringMap :=
  parseMQSCDisplayAttributes (r.commandResponse.flatMap fun item => item.text ++ item.message)

end MqscResponse

end Case

end MKurator.MqRest
