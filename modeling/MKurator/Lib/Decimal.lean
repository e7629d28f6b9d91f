import MKurator.Lib.Strings

/-! Decimal texts of integers, and how `strconv.Atoi` reads them. -/

namespace MKurator.Lib.Strings

theorem toList_toString (n : Nat) : (toString n).toList = Nat.toDigits 10 n := by
  change (Nat.repr n).toList = _
  simp [Nat.repr]

theorem toList_toString_int (n : Int) :
    (toString n).toList = (if n < 0 then ['-'] else []) ++ Nat.toDigits 10 n.natAbs := by
  cases n with
  | ofNat n =>
    have positive : ¬Int.ofNat n < 0 := by simp
    rw [if_neg positive]
    exact toList_toString n
  | negSucc n =>
    rw [if_pos (Int.negSucc_lt_zero n)]
    change ("-" ++ toString (n + 1)).toList = _
    rw [String.toList_append, toList_toString]
    rfl

theorem toDigits_all (n : Nat) : (Nat.toDigits 10 n).all Char.isDigit = true :=
  List.all_eq_true.mpr fun _ member => Nat.isDigit_of_mem_toDigits (by decide) (by decide) member

theorem foldl_digits (digits : List Char) (start : Nat) (all : digits.all Char.isDigit = true) :
    digits.foldl (fun (n : Int) d => 10 * n + (d.toNat - 48)) (start : Int) =
      (Nat.ofDigitChars 10 digits start : Nat) := by
  induction digits generalizing start with
  | nil => rfl
  | cons d digits ih =>
    obtain ⟨first, rest⟩ := Bool.and_eq_true_iff.mp (List.all_cons ▸ all)
    have range := Char.isDigit_iff_toNat.mp first
    have zero : '0'.toNat = 48 := rfl
    rw [List.foldl_cons, Nat.ofDigitChars_cons, ← ih _ rest]
    congr 1
    push_cast
    omega

def signedDigits : List Char → Bool × List Char
  | '-' :: rest => (true, rest)
  | '+' :: rest => (false, rest)
  | rest => (false, rest)

def readDigits (negative : Bool) (digits : List Char) : Option Int :=
  if digits.isEmpty || !digits.all Char.isDigit then none
  else
    let magnitude : Int := digits.foldl (fun n d => 10 * n + (d.toNat - 48)) 0
    let value := if negative then -magnitude else magnitude
    if -2 ^ 63 ≤ value ∧ value < 2 ^ 63 then some value else none

theorem atoi_eq (s : String) : atoi s = readDigits (signedDigits s.toList).1 (signedDigits s.toList).2 := by
  unfold atoi
  split
  next negative digits shape =>
    have parts : signedDigits s.toList = (negative, digits) := shape
    rw [parts]
    rfl

theorem readDigits_some {negative : Bool} {digits : List Char} {n : Int} (read : readDigits negative digits = some n) :
    digits ≠ [] ∧ digits.all Char.isDigit = true ∧ -2 ^ 63 ≤ n ∧ n < 2 ^ 63 := by
  unfold readDigits at read
  split at read
  · cases read
  next wrong =>
    simp only [Bool.or_eq_true, Bool.not_eq_true', not_or, Bool.not_eq_false, List.isEmpty_iff] at wrong
    simp only [Option.ite_none_right_eq_some, Option.some.injEq] at read
    obtain ⟨range, rfl⟩ := read
    exact ⟨wrong.1, wrong.2, range⟩

theorem signedDigits_toString (n : Int) : signedDigits (toString n).toList = (decide (n < 0), Nat.toDigits 10 n.natAbs) := by
  rw [toList_toString_int]
  by_cases negative : n < 0
  · rw [if_pos negative, decide_eq_true negative]
    rfl
  · rw [if_neg negative, decide_eq_false negative, List.nil_append]
    unfold signedDigits
    split
    next rest shape =>
      have digit := Nat.isDigit_of_mem_toDigits (b := 10) (by decide) (by decide) (shape ▸ List.mem_cons_self ..)
      exact absurd digit (by decide)
    next rest shape =>
      have digit := Nat.isDigit_of_mem_toDigits (b := 10) (by decide) (by decide) (shape ▸ List.mem_cons_self ..)
      exact absurd digit (by decide)
    next => rfl

theorem toString_int_inj {m n : Int} : toString m = toString n ↔ m = n := by
  refine ⟨fun same => ?_, fun same => same ▸ rfl⟩
  have parts := signedDigits_toString m
  rw [same, signedDigits_toString, Prod.mk.injEq, decide_eq_decide] at parts
  have size := congrArg (fun digits => Nat.ofDigitChars 10 digits 0) parts.2
  simp only [Nat.ofDigitChars_ten_toDigits] at size
  omega

/-- `Atoi` undoes `Itoa`, and fails on what does not fit into 64 bits. -/
theorem atoi_toString (n : Int) : atoi (toString n) = if -2 ^ 63 ≤ n ∧ n < 2 ^ 63 then some n else none := by
  have formed : ¬((Nat.toDigits 10 n.natAbs).isEmpty || !(Nat.toDigits 10 n.natAbs).all Char.isDigit) = true := by
    rw [toDigits_all, Bool.not_true, Bool.or_false, List.isEmpty_iff]
    exact Nat.toDigits_ne_nil
  have magnitude : (Nat.toDigits 10 n.natAbs).foldl (fun (n : Int) d => 10 * n + (d.toNat - 48)) 0 = n.natAbs := by
    have value := foldl_digits _ 0 (toDigits_all n.natAbs)
    rwa [Nat.ofDigitChars_ten_toDigits] at value
  have value : (if decide (n < 0) = true then -(n.natAbs : Int) else n.natAbs) = n := by
    simp only [decide_eq_true_eq]
    split <;> omega
  rw [atoi_eq, signedDigits_toString, readDigits, if_neg formed]
  simp only [magnitude, value]

theorem atoi_range {s : String} {n : Int} (read : atoi s = some n) : -2 ^ 63 ≤ n ∧ n < 2 ^ 63 := by
  rw [atoi_eq] at read
  exact (readDigits_some read).2.2

def isNumeral (c : Char) : Bool := c.isDigit || c = '-' || c = '+'

theorem isSpace_of_isNumeral {c : Char} (numeral : isNumeral c = true) : isSpace c = false := by
  simp only [isNumeral, Bool.or_eq_true, decide_eq_true_eq] at numeral
  rcases numeral with (digit | rfl) | rfl
  · have range := Char.isDigit_iff_toNat.mp digit
    have bounds : '0'.toNat = 48 ∧ '9'.toNat = 57 := ⟨rfl, rfl⟩
    exact isSpace_of_visible (by omega) (by omega)
  · decide
  · decide

theorem isNumeral_of_isDigit {c : Char} (digit : c.isDigit = true) : isNumeral c = true := by
  simp [isNumeral, digit]

theorem isNumeral_of_atoi {s : String} {n : Int} (read : atoi s = some n) : ∀ c ∈ s.toList, isNumeral c = true := by
  rw [atoi_eq] at read
  obtain ⟨-, all, -⟩ := readDigits_some read
  intro c member
  unfold signedDigits at all
  split at all
  next rest shape =>
    rcases List.mem_cons.mp (shape ▸ member) with rfl | inside
    · decide
    · exact isNumeral_of_isDigit (List.all_eq_true.mp all c inside)
  next rest shape =>
    rcases List.mem_cons.mp (shape ▸ member) with rfl | inside
    · decide
    · exact isNumeral_of_isDigit (List.all_eq_true.mp all c inside)
  next => exact isNumeral_of_isDigit (List.all_eq_true.mp all c member)

theorem isNumeral_toString (n : Int) : ∀ c ∈ (toString n).toList, isNumeral c = true := by
  intro c member
  rw [toList_toString_int, List.mem_append] at member
  rcases member with sign | digit
  · split at sign
    · cases List.mem_singleton.mp sign
      decide
    · cases sign
  · exact isNumeral_of_isDigit (List.all_eq_true.mp (toDigits_all _) c digit)

theorem trimSpace_of_atoi {s : String} {n : Int} (read : atoi s = some n) : trimSpace s = s ∧ s ≠ "" := by
  refine ⟨trimBy_of_none isSpace s fun c member => isSpace_of_isNumeral (isNumeral_of_atoi read c member), ?_⟩
  rintro rfl
  rw [atoi_eq] at read
  exact (readDigits_some read).1 rfl

/-- `strconv.ParseInt(s, 10, 32)`, which reads the same texts as `Atoi` into fewer bits. -/
def parseInt32 (s : String) : Option Int :=
  match atoi s with
  | some n => if -2 ^ 31 ≤ n ∧ n < 2 ^ 31 then some n else none
  | none => none

theorem atoi_of_parseInt32 {s : String} {n : Int} (read : parseInt32 s = some n) : atoi s = some n := by
  unfold parseInt32 at read
  split at read
  next m whole =>
    split at read
    · exact whole.trans read
    · cases read
  next => cases read

end MKurator.Lib.Strings
