import MKurator.Lib.Strings

/-! A text that is quoted as `%q` quotes it can be read back. -/

namespace MKurator.Lib.Strings

def hexDigit (c : Char) : Nat := if c.isDigit then c.toNat - 48 else c.toNat - 87

def hexValue (digits : List Char) : Nat := digits.foldl (fun n c => 16 * n + hexDigit c) 0

theorem hexDigit_digitChar : ∀ d < 16, hexDigit (Nat.digitChar d) = d := by decide

theorem hexValue_concat (digits : List Char) (c : Char) :
    hexValue (digits ++ [c]) = 16 * hexValue digits + hexDigit c := by
  rw [hexValue, List.foldl_append]
  rfl

theorem hexValue_toDigits (n : Nat) : hexValue (Nat.toDigits 16 n) = n := by
  induction n using Nat.strongRecOn with
  | ind n ih =>
    rw [Nat.toDigits_eq_if (by decide)]
    split
    next single =>
      have read := hexValue_concat [] (Nat.digitChar n)
      rw [hexDigit_digitChar n single] at read
      exact read.trans (Nat.zero_add n)
    next more =>
      rw [hexValue_concat, ih (n / 16) (by omega), hexDigit_digitChar _ (Nat.mod_lt n (by decide))]
      omega

theorem foldl_zeros (zeros : Nat) : (List.replicate zeros '0').foldl (fun n c => 16 * n + hexDigit c) 0 = 0 := by
  induction zeros with
  | zero => rfl
  | succ zeros ih => rwa [List.replicate_succ, List.foldl_cons]

theorem hexValue_hexPadded (width n : Nat) : hexValue (hexPadded width n).toList = n := by
  rw [hexPadded, String.toList_ofList, hexValue, List.foldl_append, foldl_zeros]
  exact hexValue_toDigits n

theorem length_hexPadded {width n : Nat} (some_width : 0 < width) (fits : n < 16 ^ width) :
    (hexPadded width n).toList.length = width := by
  have short := (Nat.length_toDigits_le_iff (by decide) some_width).mpr fits
  rw [hexPadded, String.toList_ofList, List.length_append, List.length_replicate]
  omega

def readEscape (kind : Char) (rest : List Char) : Nat × List Char :=
  match kind with
  | 'a' => (0x07, rest)
  | 'b' => (0x08, rest)
  | 't' => (0x09, rest)
  | 'n' => (0x0A, rest)
  | 'v' => (0x0B, rest)
  | 'f' => (0x0C, rest)
  | 'r' => (0x0D, rest)
  | 'x' => (hexValue (rest.take 2), rest.drop 2)
  | 'u' => (hexValue (rest.take 4), rest.drop 4)
  | 'U' => (hexValue (rest.take 8), rest.drop 8)
  | _ => (kind.toNat, rest)

def readRune : List Char → Nat × List Char
  | [] => (0, [])
  | [c] => (c.toNat, [])
  | c :: kind :: rest => if c = '\\' then readEscape kind rest else (c.toNat, kind :: rest)

theorem readRune_plain {c : Char} (unescaped : c ≠ '\\') (rest : List Char) : readRune (c :: rest) = (c.toNat, rest) := by
  cases rest with
  | nil => rfl
  | cons kind rest => exact if_neg unescaped

theorem read_hexPadded (width : Nat) {n : Nat} (some_width : 0 < width) (fits : n < 16 ^ width) (rest : List Char) :
    (hexValue (((hexPadded width n).toList ++ rest).take width), ((hexPadded width n).toList ++ rest).drop width) =
      (n, rest) := by
  have long := length_hexPadded some_width fits
  rw [List.take_left' long, List.drop_left' long, hexValue_hexPadded]

section Tables

variable [UnicodeTables]

theorem readRune_quoteRune (c : Char) (rest : List Char) : readRune ((quoteRune c).toList ++ rest) = (c.toNat, rest) := by
  unfold quoteRune
  split
  next quotation => rw [quotation]; rfl
  split
  next backslash => rw [backslash]; rfl
  next unescaped =>
  split
  next => rw [String.toList_ofList]; exact readRune_plain unescaped rest
  split
  case h_8 =>
    have top : c.toNat < 2 ^ 32 := c.val.toNat_lt
    split
    next low =>
      rw [String.toList_append]
      exact read_hexPadded 2 (by decide) (by omega) rest
    split
    next short =>
      rw [String.toList_append]
      exact read_hexPadded 4 (by decide) short rest
    next =>
      rw [String.toList_append]
      exact read_hexPadded 8 (by decide) (by omega) rest
  all_goals rename_i code; rw [code]; rfl

theorem quoteRune_ne_nil (c : Char) : (quoteRune c).toList ≠ [] := by
  intro empty
  have read := readRune_quoteRune c ['x', 'x']
  rw [empty] at read
  cases congrArg (fun r => r.2.length) read

/-- Quoted runes are told apart whatever stands behind them. -/
theorem flatMap_quoteRune_injective : ∀ first second : List Char,
    (first.flatMap fun c => (quoteRune c).toList) = (second.flatMap fun c => (quoteRune c).toList) → first = second
  | [], [], _ => rfl
  | [], c :: rest, same => absurd (List.append_eq_nil_iff.mp same.symm).1 (quoteRune_ne_nil c)
  | c :: rest, [], same => absurd (List.append_eq_nil_iff.mp same).1 (quoteRune_ne_nil c)
  | c :: rest, d :: others, same => by
    have read := congrArg readRune same
    rw [List.flatMap_cons, List.flatMap_cons, readRune_quoteRune, readRune_quoteRune, Prod.mk.injEq] at read
    rw [Char.toNat_inj.mp read.1, flatMap_quoteRune_injective rest others read.2]

theorem quote_injective {first second : String} (same : quote first = quote second) : first = second := by
  have letters := congrArg String.toList same
  rw [quote, quote, String.toList_append, String.toList_append, String.toList_append, String.toList_append,
    List.append_left_inj, List.append_right_inj, String.toList_join, String.toList_join, List.flatMap_map,
    List.flatMap_map] at letters
  exact String.toList_inj.mp (flatMap_quoteRune_injective _ _ letters)

end Tables

end MKurator.Lib.Strings
