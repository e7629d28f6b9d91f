import Mathlib.Algebra.Ring.Int.Defs
import Mathlib.Algebra.Ring.Nat
import Mathlib.Data.List.Infix
import Mathlib.Data.Char
import Mathlib.Data.List.DropRight
import Mathlib.Data.List.Sort

/-! Text functions with the meaning of Go's `strings`, `strconv` and `fmt` packages, over lists of code points. -/

namespace MKurator.Lib.Strings

/-- The rune tables of Go's `unicode` package. Their ASCII rows are fixed, punctuation has no case, and a lower-case rune
is its own lower case; every other row is a parameter. -/
class UnicodeTables where
  toUpper : Char → Char
  toLower : Char → Char
  /-- One representative for each orbit of `unicode.SimpleFold`. -/
  fold : Char → Char
  isPrint : Char → Bool
  toUpper_ascii : ∀ c : Char, c.toNat < 128 → toUpper c = c.toUpper
  toLower_ascii : ∀ c : Char, c.toNat < 128 → toLower c = c.toLower
  toUpper_punctuation : ∀ c : Char, 0x2000 ≤ c.toNat → c.toNat ≤ 0x206F → toUpper c = c
  toLower_punctuation : ∀ c : Char, 0x2000 ≤ c.toNat → c.toNat ≤ 0x206F → toLower c = c
  toLower_toLower : ∀ c : Char, toLower (toLower c) = toLower c
  fold_ascii : ∀ c : Char, c.toNat < 128 → fold c = c.toLower
  isPrint_ascii : ∀ c : Char, c.toNat < 128 → isPrint c = (decide (32 ≤ c.toNat) && decide (c.toNat ≤ 126))

theorem ascii_of_all {s : String} (all : (s.toList.all fun c => decide (c.toNat < 128)) = true) :
    ∀ c ∈ s.toList, c.toNat < 128 :=
  fun c member => of_decide_eq_true (List.all_eq_true.mp all c member)

theorem toNat_toUpper (c : Char) :
    c.toUpper.toNat = if 97 ≤ c.toNat ∧ c.toNat ≤ 122 then c.toNat - 32 else c.toNat := by
  unfold Char.toUpper
  split
  next lower =>
    have range : 97 ≤ c.toNat ∧ c.toNat ≤ 122 := lower
    rw [if_pos range]
    change (c.val + ('A'.val - 'a'.val)).toNat = _
    have code : c.val.toNat = c.toNat := rfl
    have shift : ('A'.val - 'a'.val).toNat = 4294967264 := by decide
    rw [UInt32.toNat_add, code, shift]
    omega
  next other =>
    have range : ¬(97 ≤ c.toNat ∧ c.toNat ≤ 122) := other
    rw [if_neg range]

theorem toNat_toLower (c : Char) :
    c.toLower.toNat = if 65 ≤ c.toNat ∧ c.toNat ≤ 90 then c.toNat + 32 else c.toNat := by
  unfold Char.toLower
  split
  next upper =>
    have range : 65 ≤ c.toNat ∧ c.toNat ≤ 90 := upper
    rw [if_pos range]
    change (c.val + ('a'.val - 'A'.val)).toNat = _
    have code : c.val.toNat = c.toNat := rfl
    have shift : ('a'.val - 'A'.val).toNat = 32 := by decide
    rw [UInt32.toNat_add, code, shift]
    omega
  next other =>
    have range : ¬(65 ≤ c.toNat ∧ c.toNat ≤ 90) := other
    rw [if_neg range]

theorem char_toUpper_eq_self (c : Char) (other : c.toNat < 97 ∨ 122 < c.toNat) : c.toUpper = c := by
  rw [← Char.toNat_inj, toNat_toUpper, if_neg (by omega)]

theorem char_toLower_eq_self (c : Char) (other : c.toNat < 65 ∨ 90 < c.toNat) : c.toLower = c := by
  rw [← Char.toNat_inj, toNat_toLower, if_neg (by omega)]

theorem isUpper_iff_toNat (c : Char) : c.isUpper = true ↔ 65 ≤ c.toNat ∧ c.toNat ≤ 90 := by
  change decide (c.val ≥ 65 ∧ c.val ≤ 90) = true ↔ _
  rw [decide_eq_true_eq]
  exact Iff.rfl

theorem isLower_iff_toNat (c : Char) : c.isLower = true ↔ 97 ≤ c.toNat ∧ c.toNat ≤ 122 := by
  change (decide (c.val ≥ 97) && decide (c.val ≤ 122)) = true ↔ _
  rw [Bool.and_eq_true, decide_eq_true_eq, decide_eq_true_eq]
  exact Iff.rfl

theorem isAlphanum_iff_toNat (c : Char) : c.isAlphanum = true ↔
    ((65 ≤ c.toNat ∧ c.toNat ≤ 90) ∨ (97 ≤ c.toNat ∧ c.toNat ≤ 122)) ∨ (48 ≤ c.toNat ∧ c.toNat ≤ 57) := by
  change ((c.isUpper || c.isLower) || c.isDigit) = true ↔ _
  rw [Bool.or_eq_true, Bool.or_eq_true, isUpper_iff_toNat, isLower_iff_toNat, Char.isDigit_iff_toNat]
  exact Iff.rfl

theorem toUpper_toLower_of_not_lower (c : Char) (other : c.isLower = false) : c.toLower.toUpper = c := by
  have range : ¬(97 ≤ c.toNat ∧ c.toNat ≤ 122) := by
    rw [← isLower_iff_toNat, other]
    exact Bool.false_ne_true
  have lowered := toNat_toLower c
  have raised := toNat_toUpper c.toLower
  rw [← Char.toNat_inj]
  split at lowered <;> split at raised <;> omega

/-- Tables that leave every non-ASCII rune alone. -/
abbrev asciiTables : UnicodeTables where
  toUpper := Char.toUpper
  toLower := Char.toLower
  fold := Char.toLower
  isPrint c := decide (32 ≤ c.toNat) && decide (c.toNat ≠ 127)
  toUpper_ascii _ _ := rfl
  toLower_ascii _ _ := rfl
  toUpper_punctuation c low _ := char_toUpper_eq_self c (by omega)
  toLower_punctuation c low _ := char_toLower_eq_self c (by omega)
  toLower_toLower c := char_toLower_eq_self c.toLower (by have code := toNat_toLower c; split at code <;> omega)
  fold_ascii _ _ := rfl
  isPrint_ascii c small := by
    by_cases same : c.toNat = 127
    · simp [same]
    · have inside : c.toNat ≤ 126 := by omega
      simp [same, inside]

def contains (s sub : String) : Bool :=
  s.toList.tails.any (sub.toList.isPrefixOf ·)

theorem contains_iff (s sub : String) : contains s sub = true ↔ sub.toList <:+: s.toList := by
  simp only [contains, List.any_eq_true, List.mem_tails, List.isPrefixOf_iff_prefix, List.infix_iff_prefix_suffix]
  exact exists_congr fun _ => and_comm

theorem contains_append_right (front s sub : String) (inside : contains s sub = true) :
    contains (front ++ s) sub = true := by
  rw [contains_iff] at inside ⊢
  rw [String.toList_append]
  exact inside.trans (List.suffix_append _ _).isInfix

theorem contains_eq_false_of_absent (s sub : String) (c : Char) (needed : c ∈ sub.toList) (absent : c ∉ s.toList) :
    contains s sub = false := by
  by_contra inside
  rw [Bool.not_eq_false, contains_iff] at inside
  exact absent (inside.subset needed)

theorem infix_append_cases {α : Type} {inner front back : List α} (inside : inner <:+: front ++ back) :
    inner <:+: front ∨ inner <:+: back ∨
      ∃ left right, left ≠ [] ∧ right ≠ [] ∧ inner = left ++ right ∧ left <:+ front ∧ right <+: back := by
  obtain ⟨before, after, whole⟩ := inside
  rw [List.append_assoc] at whole
  rcases List.append_eq_append_iff.mp whole with ⟨rest, frontIs, innerIs⟩ | ⟨rest, beforeIs, backIs⟩
  · rcases List.append_eq_append_iff.mp innerIs with ⟨tail, restIs, afterIs⟩ | ⟨tail, innerSplit, backIs⟩
    · exact .inl ⟨before, tail, by rw [frontIs, restIs, List.append_assoc]⟩
    · by_cases noLeft : rest = []
      · subst noLeft
        exact .inr (.inl ⟨[], after, by simpa [innerSplit] using backIs.symm⟩)
      · by_cases noRight : tail = []
        · subst noRight
          exact .inl ⟨before, [], by simp [frontIs, innerSplit]⟩
        · exact .inr (.inr ⟨rest, tail, noLeft, noRight, innerSplit, ⟨before, frontIs.symm⟩, ⟨after, backIs.symm⟩⟩)
  · exact .inr (.inl ⟨rest, after, by rw [backIs, List.append_assoc]⟩)

theorem contains_append_apart (front s sub : String) (outside : contains front sub = false)
    (apart : ∀ left ∈ sub.toList.inits, left ≠ [] → ¬ left <:+ front.toList) :
    contains (front ++ s) sub = contains s sub := by
  rw [Bool.eq_iff_iff]
  refine ⟨fun inside => ?_, contains_append_right front s sub⟩
  rw [contains_iff, String.toList_append] at inside
  rcases infix_append_cases inside with within | within | ⟨left, right, some_left, -, whole, ending, -⟩
  · rw [← contains_iff, outside] at within
    cases within
  · exact (contains_iff s sub).mpr within
  · refine absurd ending (apart left ?_ some_left)
    exact (List.mem_inits left sub.toList).mpr ⟨right, whole.symm⟩

theorem contains_append_before (s back sub : String) (outside : contains back sub = false)
    (apart : ∀ right ∈ sub.toList.tails, right ≠ [] → ¬ right <+: back.toList) :
    contains (s ++ back) sub = contains s sub := by
  rw [Bool.eq_iff_iff, contains_iff, contains_iff, String.toList_append]
  constructor
  · intro inside
    rcases infix_append_cases inside with within | within | ⟨left, right, -, some_right, whole, -, beginning⟩
    · exact within
    · rw [← contains_iff, outside] at within
      cases within
    · refine absurd beginning (apart right ?_ some_right)
      exact (List.mem_tails right sub.toList).mpr ⟨left, whole.symm⟩
  · intro inside
    exact inside.trans (List.prefix_append _ _).isInfix

theorem mem_toString_lt (n : Nat) {c : Char} (member : c ∈ (toString n).toList) : c.toNat < 58 := by
  have digits : (toString n).toList = Nat.toDigits 10 n := by simp
  rw [digits] at member
  have digit : c.isDigit = true := Nat.isDigit_of_mem_toDigits (by decide) (by decide) member
  have range : '0'.toNat ≤ c.toNat ∧ c.toNat ≤ '9'.toNat := Char.isDigit_iff_toNat.mp digit
  have nine : '9'.toNat = 57 := rfl
  omega

/-- `%0wx` -/
def hexPadded (width n : Nat) : String :=
  let digits := Nat.toDigits 16 n
  String.ofList (List.replicate (width - digits.length) '0' ++ digits)

theorem ofList_map_eq_empty_iff (f : Char → Char) (s : String) : String.ofList (s.toList.map f) = "" ↔ s = "" := by
  constructor
  · intro empty
    have letters := congrArg String.toList empty
    rw [String.toList_ofList] at letters
    exact String.toList_inj.mp (List.map_eq_nil_iff.mp letters)
  · intro empty
    rw [empty]
    rfl

section Case

variable [UnicodeTables]

def toUpper (s : String) : String := String.ofList (s.toList.map UnicodeTables.toUpper)

def toLower (s : String) : String := String.ofList (s.toList.map UnicodeTables.toLower)

def equalFold (s t : String) : Bool :=
  s.toList.map UnicodeTables.fold == t.toList.map UnicodeTables.fold

/-- One rune of `%q`: quotes, backslashes and what is not printable are escaped. -/
def quoteRune (c : Char) : String :=
  if c = '"' then "\\\""
  else if c = '\\' then "\\\\"
  else if UnicodeTables.isPrint c then String.ofList [c]
  else match c.toNat with
    | 0x07 => "\\a"
    | 0x08 => "\\b"
    | 0x09 => "\\t"
    | 0x0A => "\\n"
    | 0x0B => "\\v"
    | 0x0C => "\\f"
    | 0x0D => "\\r"
    | code =>
      if code < 0x20 ∨ code = 0x7F then "\\x" ++ hexPadded 2 code
      else if code < 0x10000 then "\\u" ++ hexPadded 4 code
      else "\\U" ++ hexPadded 8 code

/-- `%q` -/
def quote (s : String) : String :=
  "\"" ++ String.join (s.toList.map quoteRune) ++ "\""

theorem quote_of_printable (s : String)
    (printable : (s.toList.all fun c => decide (c ≠ '"' ∧ c ≠ '\\' ∧ 32 ≤ c.toNat ∧ c.toNat ≤ 126)) = true) :
    quote s = "\"" ++ s ++ "\"" := by
  have kept : s.toList.map quoteRune = s.toList.map fun c => String.ofList [c] := by
    refine List.map_congr_left fun c member => ?_
    obtain ⟨unquoted, unescaped, low, high⟩ := of_decide_eq_true (List.all_eq_true.mp printable c member)
    have prints : UnicodeTables.isPrint c = true := by
      rw [UnicodeTables.isPrint_ascii c (by omega), decide_eq_true low, decide_eq_true high]
      rfl
    rw [quoteRune, if_neg unquoted, if_neg unescaped, if_pos prints]
  have whole : ∀ cs : List Char, String.join (cs.map fun c => String.ofList [c]) = String.ofList cs := by
    intro cs
    induction cs with
    | nil => rfl
    | cons c rest ih => rw [List.map_cons, String.join_cons, ih, ← String.ofList_append, List.singleton_append]
  rw [quote, kept, whole, String.ofList_toList]

theorem toUpper_append (s t : String) : toUpper (s ++ t) = toUpper s ++ toUpper t := by
  simp [toUpper]

theorem toLower_eq_empty_iff (s : String) : toLower s = "" ↔ s = "" :=
  ofList_map_eq_empty_iff _ s

theorem toLower_append (s t : String) : toLower (s ++ t) = toLower s ++ toLower t := by
  simp [toLower]

@[simp] theorem toList_toUpper (s : String) : (toUpper s).toList = s.toList.map UnicodeTables.toUpper := by
  simp [toUpper]

@[simp] theorem toList_toLower (s : String) : (toLower s).toList = s.toList.map UnicodeTables.toLower := by
  simp [toLower]

theorem toLower_toLower (s : String) : toLower (toLower s) = toLower s := by
  rw [toLower, toList_toLower, List.map_map]
  exact congrArg String.ofList (List.map_congr_left fun c _ => UnicodeTables.toLower_toLower c)

theorem contains_toUpper {s sub : String} (upper : toUpper sub = sub) (inside : contains s sub = true) :
    contains (toUpper s) sub = true := by
  rw [contains_iff] at inside ⊢
  rw [← upper, toList_toUpper, toList_toUpper]
  exact inside.map _

/-- ASCII and punctuation, whose rows of the tables are fixed. -/
def isPlain (c : Char) : Bool := decide (c.toNat < 128) || (decide (0x2000 ≤ c.toNat) && decide (c.toNat ≤ 0x206F))

theorem toUpper_of_plain (s : String) (plain : s.toList.all isPlain = true) :
    toUpper s = String.ofList (s.toList.map Char.toUpper) := by
  unfold toUpper
  congr 1
  refine List.map_congr_left fun c member => ?_
  have known := List.all_eq_true.mp plain c member
  simp only [isPlain, Bool.or_eq_true, Bool.and_eq_true, decide_eq_true_eq] at known
  rcases known with small | ⟨low, high⟩
  · exact UnicodeTables.toUpper_ascii c small
  · rw [UnicodeTables.toUpper_punctuation c low high, char_toUpper_eq_self c (by omega)]

theorem toLower_of_plain (s : String) (plain : s.toList.all isPlain = true) :
    toLower s = String.ofList (s.toList.map Char.toLower) := by
  unfold toLower
  congr 1
  refine List.map_congr_left fun c member => ?_
  have known := List.all_eq_true.mp plain c member
  simp only [isPlain, Bool.or_eq_true, Bool.and_eq_true, decide_eq_true_eq] at known
  rcases known with small | ⟨low, high⟩
  · exact UnicodeTables.toLower_ascii c small
  · rw [UnicodeTables.toLower_punctuation c low high, char_toLower_eq_self c (by omega)]

end Case

def isSpace (c : Char) : Bool :=
  c.toNat ∈ [0x09, 0x0A, 0x0B, 0x0C, 0x0D, 0x20, 0x85, 0xA0, 0x1680, 0x2028, 0x2029, 0x202F, 0x205F, 0x3000] ||
    (decide (0x2000 ≤ c.toNat) && decide (c.toNat ≤ 0x200A))

theorem isSpace_of_visible {c : Char} (low : 32 < c.toNat) (high : c.toNat < 133) : isSpace c = false := by
  by_contra space
  rw [Bool.not_eq_false] at space
  simp only [isSpace, List.mem_cons, List.not_mem_nil, or_false, Bool.or_eq_true, Bool.and_eq_true,
    decide_eq_true_eq] at space
  omega

/-- `strings.TrimFunc` on both ends. -/
def trimBy (p : Char → Bool) (s : String) : String :=
  String.ofList ((s.toList.dropWhile p).reverse.dropWhile p).reverse

def trimSpace (s : String) : String := trimBy isSpace s

theorem trimSpace_empty : trimSpace "" = "" := rfl

theorem trimBy_of_none (p : Char → Bool) (s : String) (none : ∀ c ∈ s.toList, p c = false) : trimBy p s = s := by
  have kept : ∀ chars : List Char, (∀ c ∈ chars, p c = false) → chars.dropWhile p = chars := by
    intro chars absent
    cases chars with
    | nil => rfl
    | cons c chars => rw [List.dropWhile_cons_of_neg (by rw [absent c (List.mem_cons_self ..)]; exact Bool.false_ne_true)]
  rw [trimBy, kept _ none, kept _ fun c member => none c (List.mem_reverse.mp member), List.reverse_reverse,
    String.ofList_toList]

theorem mem_trimBy {p : Char → Bool} {s : String} {c : Char} (member : c ∈ s.toList) (kept : p c = false) :
    c ∈ (trimBy p s).toList := by
  have dropped : ∀ chars : List Char, c ∈ chars → c ∈ chars.dropWhile p := by
    intro chars inside
    rw [← List.takeWhile_append_dropWhile (p := p) (l := chars), List.mem_append] at inside
    rcases inside with taken | left
    · have cut := List.mem_takeWhile_imp taken
      rw [kept] at cut
      cases cut
    · exact left
  rw [trimBy, String.toList_ofList, List.mem_reverse]
  exact dropped _ (List.mem_reverse.mpr (dropped _ member))

theorem of_mem_trimBy {p : Char → Bool} {s : String} {c : Char} (member : c ∈ (trimBy p s).toList) : c ∈ s.toList := by
  rw [trimBy, String.toList_ofList, List.mem_reverse] at member
  exact (List.dropWhile_sublist p).subset (List.mem_reverse.mp ((List.dropWhile_sublist p).subset member))

theorem trimBy_trimBy (p : Char → Bool) (s : String) : trimBy p (trimBy p s) = trimBy p s := by
  have trimmed : ∀ text : String, (trimBy p text).toList = (text.toList.dropWhile p).rdropWhile p :=
    fun text => String.toList_ofList
  have start : (trimBy p s).toList.dropWhile p = (trimBy p s).toList := by
    rw [trimmed]
    cases shape : (s.toList.dropWhile p).rdropWhile p with
    | nil => rfl
    | cons c rest =>
      obtain ⟨tail, whole⟩ := List.rdropWhile_prefix p (s.toList.dropWhile p)
      rw [shape, List.cons_append] at whole
      have first := List.head?_dropWhile_not p s.toList
      rw [← whole, List.head?_cons] at first
      exact List.dropWhile_cons_of_neg (by rw [first]; exact Bool.false_ne_true)
  rw [← String.toList_inj, trimmed (trimBy p s), start, trimmed s, List.rdropWhile_idempotent]

theorem trimBy_of_ends {p : Char → Bool} {s : String} (first : ∀ c ∈ s.toList.head?, p c = false)
    (last : ∀ c ∈ s.toList.getLast?, p c = false) : trimBy p s = s := by
  have kept : ∀ chars : List Char, (∀ c ∈ chars.head?, p c = false) → chars.dropWhile p = chars := by
    intro chars starts
    cases chars with
    | nil => rfl
    | cons c chars => exact List.dropWhile_cons_of_neg (by rw [starts c rfl]; exact Bool.false_ne_true)
  have ends : ∀ c ∈ s.toList.reverse.head?, p c = false := by
    rw [List.head?_reverse]
    exact last
  rw [trimBy, kept _ first, kept _ ends, List.reverse_reverse, String.ofList_toList]

theorem ends_of_trimBy {p : Char → Bool} {s : String} (same : trimBy p s = s) :
    (∀ c ∈ s.toList.head?, p c = false) ∧ ∀ c ∈ s.toList.getLast?, p c = false := by
  have trimmed : (s.toList.dropWhile p).rdropWhile p = s.toList := by
    rw [← String.toList_inj] at same
    exact String.toList_ofList.symm.trans same
  have dropped : s.toList.dropWhile p = s.toList := by
    have shorter := (List.rdropWhile_prefix p (s.toList.dropWhile p)).length_le
    rw [trimmed] at shorter
    exact (List.dropWhile_suffix p).eq_of_length (Nat.le_antisymm (List.dropWhile_suffix p).length_le shorter)
  rw [dropped] at trimmed
  constructor
  · intro c head
    have starts := List.head?_dropWhile_not p s.toList
    rw [dropped, Option.mem_def.mp head] at starts
    exact starts
  · intro c last
    have reversed : s.toList.reverse.dropWhile p = s.toList.reverse := by
      rw [← List.reverse_inj, List.reverse_reverse]
      exact trimmed
    have stops := List.head?_dropWhile_not p s.toList.reverse
    rw [reversed, List.head?_reverse, Option.mem_def.mp last] at stops
    exact stops

theorem trimBy_surround {p : Char → Bool} {c : Char} (cut : p c = true) (s : String) :
    trimBy p (String.ofList (c :: (s.toList ++ [c]))) = trimBy p s := by
  rw [trimBy, trimBy, String.toList_ofList, List.dropWhile_cons_of_pos cut, List.dropWhile_append]
  split
  next empty =>
    rw [List.isEmpty_iff.mp empty, List.dropWhile_cons_of_pos cut]
    rfl
  next => rw [List.reverse_append, List.reverse_singleton, List.singleton_append, List.dropWhile_cons_of_pos cut]

theorem trimBy_map (p : Char → Bool) (change : Char → Char) (s : String) (kept : ∀ c ∈ s.toList, p (change c) = p c) :
    (trimBy p (String.ofList (s.toList.map change))).toList = (trimBy p s).toList.map change := by
  have dropped : ∀ chars : List Char, (∀ c ∈ chars, p (change c) = p c) →
      (chars.map change).dropWhile p = (chars.dropWhile p).map change := by
    intro chars same
    induction chars with
    | nil => rfl
    | cons c chars ih =>
      have here := same c (List.mem_cons_self ..)
      have later := ih fun other member => same other (List.mem_cons_of_mem _ member)
      rw [List.map_cons, List.dropWhile_cons, List.dropWhile_cons, here, later]
      split <;> rfl
  have inside : ∀ c ∈ (s.toList.dropWhile p).reverse, p (change c) = p c := fun c member =>
    kept c ((List.dropWhile_sublist p).subset (List.mem_reverse.mp member))
  rw [trimBy, trimBy, String.toList_ofList, String.toList_ofList, String.toList_ofList, dropped _ kept,
    ← List.map_reverse, dropped _ inside, List.map_reverse]

/-- `strings.ReplaceAll s old new` for an `old` of one rune. -/
def replaceRune (s : String) (old : Char) (new : String) : String :=
  String.ofList (s.toList.flatMap fun c => if c = old then new.toList else [c])

/-- `strings.Split` for a separator of one rune. -/
def split (s : String) (sep : Char) : List String :=
  (s.toList.splitOn sep).map String.ofList

def afterFirst (sub : List Char) : List Char → Option (List Char)
  | [] => if sub = [] then some [] else none
  | c :: cs => if sub.isPrefixOf (c :: cs) then some ((c :: cs).drop sub.length) else afterFirst sub cs

/-- `s[strings.Index(s, sub)+len(sub):]`, or nothing when the index is negative. -/
def cutAfter (s sub : String) : Option String := (afterFirst sub.toList s.toList).map String.ofList

theorem afterFirst_append (sub front rest : List Char) (ends : afterFirst sub front = some []) :
    afterFirst sub (front ++ rest) = some rest := by
  have long : ∀ chars tail, afterFirst sub chars = some tail → sub.length + tail.length ≤ chars.length := by
    intro chars
    induction chars with
    | nil =>
      intro tail found
      rw [afterFirst] at found
      split at found
      next empty => cases found; simp [empty]
      next => cases found
    | cons c chars ih =>
      intro tail found
      rw [afterFirst] at found
      split at found
      next starts =>
        cases found
        have shorter := (List.isPrefixOf_iff_prefix.mp starts).length_le
        rw [List.length_drop]
        omega
      next =>
        have later := ih tail found
        rw [List.length_cons]
        omega
  induction front with
  | nil =>
    rw [afterFirst] at ends
    split at ends
    next empty => cases rest <;> simp [empty, afterFirst]
    next => cases ends
  | cons c front ih =>
    rw [afterFirst] at ends
    rw [List.cons_append, afterFirst, ← List.cons_append]
    split at ends
    next starts =>
      obtain ⟨tail, whole⟩ := List.isPrefixOf_iff_prefix.mp starts
      have empty : tail = [] := by
        rw [← whole, List.drop_left] at ends
        exact Option.some.inj ends
      rw [empty, List.append_nil] at whole
      rw [if_pos (List.isPrefixOf_iff_prefix.mpr ⟨rest, by rw [whole]⟩), ← whole, List.drop_left]
    next differs =>
      have enough := long front [] ends
      rw [if_neg fun starts => differs ?_]
      · exact ih ends
      · have inside := List.isPrefixOf_iff_prefix.mp starts
        refine List.isPrefixOf_iff_prefix.mpr (List.prefix_of_prefix_length_le inside (List.prefix_append _ _) ?_)
        rw [List.length_nil] at enough
        rw [List.length_cons]
        omega

theorem afterFirst_cons_of_ne {c d : Char} {sub chars : List Char} (other : c ≠ d) :
    afterFirst (d :: sub) (c :: chars) = afterFirst (d :: sub) chars := by
  rw [afterFirst, if_neg]
  rw [List.isPrefixOf_cons_cons, beq_eq_false_iff_ne.mpr (Ne.symm other), Bool.false_and]
  exact Bool.false_ne_true

theorem exists_drop_of_afterFirst {sub chars rest : List Char} (found : afterFirst sub chars = some rest) :
    rest = chars.drop (chars.length - rest.length) := by
  have tail : rest <:+ chars := by
    induction chars with
    | nil =>
      rw [afterFirst] at found
      split at found
      · cases found
        exact List.suffix_rfl
      · cases found
    | cons c chars ih =>
      rw [afterFirst] at found
      split at found
      · cases found
        exact List.drop_suffix _ _
      · exact (ih found).trans (List.suffix_cons c chars)
  exact List.suffix_iff_eq_drop.mp tail

def join (parts : List String) (sep : String) : String := sep.intercalate parts

theorem toList_join_cons (part : String) (parts : List String) (sep : String) :
    (join (part :: parts) sep).toList = part.toList ++ parts.flatMap fun other => sep.toList ++ other.toList := by
  rw [join, String.toList_intercalate]
  induction parts generalizing part with
  | nil => simp [List.intercalate]
  | cons second rest ih =>
    rw [List.map_cons, List.map_cons, List.intercalate_cons_cons, ← List.map_cons, ih second, List.flatMap_cons]
    simp only [List.append_assoc]

theorem all_join {parts : List String} {sep : String} {p : Char → Bool}
    (inside : ∀ part ∈ parts, part.toList.all p = true) (between : sep.toList.all p = true) :
    (join parts sep).toList.all p = true := by
  rw [join, String.toList_intercalate]
  induction parts with
  | nil => rfl
  | cons part parts ih =>
    have later := ih fun other member => inside other (List.mem_cons_of_mem _ member)
    have here := inside part (List.mem_cons_self ..)
    cases parts with
    | nil => simpa [List.intercalate] using here
    | cons second rest =>
      rw [List.map_cons, List.map_cons, List.intercalate_cons_cons, List.all_append, List.all_append, here, between]
      exact later

theorem join_ne_empty {parts : List String} {part : String} {rest : List String} (sep : String)
    (shape : parts = part :: rest) (filled : part.toList ≠ []) : (join parts sep).toList ≠ [] := by
  rw [join, String.toList_intercalate, shape]
  cases rest with
  | nil => simpa [List.intercalate] using filled
  | cons second rest =>
    rw [List.map_cons, List.map_cons, List.intercalate_cons_cons]
    exact fun empty => filled (List.append_eq_nil_iff.mp (List.append_eq_nil_iff.mp empty).1).1

theorem split_join (parts : List String) (sep : Char) (some_part : parts ≠ []) (clear : ∀ part ∈ parts, sep ∉ part.toList) :
    split (join parts (String.ofList [sep])) sep = parts := by
  rw [split, join, String.toList_intercalate, String.toList_ofList, List.splitOn_intercalate sep]
  · rw [List.map_map]
    exact List.map_id'' (fun part => String.ofList_toList) parts
  · intro chars member
    obtain ⟨part, inside, rfl⟩ := List.mem_map.mp member
    exact clear part inside
  · exact fun empty => some_part (List.map_eq_nil_iff.mp empty)

/-- `sort.Strings` on code points, which is the byte order of UTF-8. -/
def sorted (xs : List String) : List String := xs.insertionSort (· ≤ ·)

theorem sorted_eq_iff (xs ys : List String) : sorted xs = sorted ys ↔ xs.Perm ys := by
  have trans : IsTrans String (· ≤ ·) := ⟨fun _ _ _ first second => String.le_trans first second⟩
  have total : Std.Total (α := String) (· ≤ ·) := ⟨String.le_total⟩
  unfold sorted
  constructor
  · intro same
    have perm := List.perm_insertionSort (· ≤ ·) xs
    rw [same] at perm
    exact perm.symm.trans (List.perm_insertionSort (· ≤ ·) ys)
  · intro perm
    refine List.Perm.eq_of_pairwise (fun a b _ _ first second => String.le_antisymm first second)
      (List.pairwise_insertionSort _ _) (List.pairwise_insertionSort _ _) ?_
    exact (List.perm_insertionSort _ xs).trans (perm.trans (List.perm_insertionSort _ ys).symm)

/-- `strconv.Atoi` on a 64-bit platform; `none` is its error. -/
def atoi (s : String) : Option Int :=
  let (negative, digits) := match s.toList with
    | '-' :: rest => (true, rest)
    | '+' :: rest => (false, rest)
    | rest => (false, rest)
  if digits.isEmpty || !digits.all Char.isDigit then none
  else
    let magnitude : Int := digits.foldl (fun n d => 10 * n + (d.toNat - 48)) 0
    let value := if negative then -magnitude else magnitude
    if -2 ^ 63 ≤ value ∧ value < 2 ^ 63 then some value else none

end MKurator.Lib.Strings
