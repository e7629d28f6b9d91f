import Mathlib.Data.List.Basic
import MKurator.Lib.Strings

/-! The clauses of an MQSC command: bare words, `KEYWORD(bare list)` and `KEYWORD('text')` with a doubled quote for a
quote. Reading a written command gives its clauses back. -/

namespace MKurator.Lib.Mqsc
open MKurator.Lib.Strings

inductive Clause where
  | word (keyword : String)
  | bare (keyword value : String)
  | quoted (keyword text : String)
  deriving DecidableEq, Repr

def isKeywordChar (c : Char) : Bool := c != ' ' && c != '(' && c != ')' && c != '\''

def isBareChar (c : Char) : Bool := c != '(' && c != ')' && c != '\''

def doubleQuotes (text : List Char) : List Char := text.flatMap fun c => if c = '\'' then ['\'', '\''] else [c]

theorem doubleQuotes_of_unquoted {text : List Char} (unquoted : '\'' ∉ text) : doubleQuotes text = text := by
  induction text with
  | nil => rfl
  | cons c text ih =>
    have other : c ≠ '\'' := fun same => unquoted (same ▸ List.mem_cons_self ..)
    have later := ih fun inside => unquoted (List.mem_cons_of_mem _ inside)
    rw [doubleQuotes, List.flatMap_cons, if_neg other, List.singleton_append]
    exact congrArg (List.cons c) later

theorem length_doubleQuotes (text : List Char) : (doubleQuotes text).length = text.length + text.count '\'' := by
  induction text with
  | nil => rfl
  | cons c text ih =>
    have split : (doubleQuotes (c :: text)).length = (if c = '\'' then 2 else 1) + (doubleQuotes text).length := by
      rw [doubleQuotes, List.flatMap_cons, List.length_append]
      by_cases quote : c = '\'' <;> simp [quote, doubleQuotes]
    rw [split, ih, List.length_cons, List.count_cons]
    by_cases quote : c = '\'' <;> simp [quote] <;> omega

def Clause.write : Clause → List Char
  | .word keyword => keyword.toList
  | .bare keyword value => keyword.toList ++ '(' :: (value.toList ++ [')'])
  | .quoted keyword text => keyword.toList ++ '(' :: '\'' :: (doubleQuotes text.toList ++ ['\'', ')'])

def write (clauses : List Clause) : List Char := [' '].intercalate (clauses.map Clause.write)

theorem write_cons (clause : Clause) {clauses : List Clause} (more : clauses ≠ []) :
    write (clause :: clauses) = clause.write ++ ' ' :: write clauses := by
  cases clauses with
  | nil => exact absurd rfl more
  | cons second rest => simp [write, List.intercalate]

theorem write_append {front back : List Clause} (some_front : front ≠ []) (some_back : back ≠ []) :
    write (front ++ back) = write front ++ ' ' :: write back := by
  induction front with
  | nil => exact absurd rfl some_front
  | cons clause front ih =>
    cases front with
    | nil =>
      rw [List.singleton_append, write_cons clause some_back]
      simp [write]
    | cons second rest =>
      rw [List.cons_append, write_cons clause (by simp), ih (by simp), write_cons clause (by simp), List.append_assoc,
        List.cons_append]

theorem intercalate_write (groups : List (List Clause)) (filled : ∀ group ∈ groups, group ≠ []) :
    [' '].intercalate (groups.map write) = write groups.flatten := by
  induction groups with
  | nil => rfl
  | cons group groups ih =>
    have later := ih fun other member => filled other (List.mem_cons_of_mem _ member)
    cases groups with
    | nil => simp [List.intercalate]
    | cons second rest =>
      have some_rest : (second :: rest).flatten ≠ [] := by
        intro empty
        exact filled second (by simp) (List.flatten_eq_nil_iff.mp empty second (List.mem_cons_self ..))
      rw [List.flatten_cons, write_append (filled group (List.mem_cons_self ..)) some_rest, ← later]
      simp [List.intercalate]

/-- Where the reader stands. After a quote inside a text, the next character tells an end from a doubled quote. -/
inductive Reader where
  | blank
  | word (keyword : List Char)
  | argument (keyword : List Char)
  | bare (keyword value : List Char)
  | quoted (keyword text : List Char)
  | quote (keyword text : List Char)
  | closed
  deriving DecidableEq, Repr

def Reader.step : Reader → Char → Option (Reader × Option Clause)
  | .blank, c => if c = ' ' then some (.blank, none) else if isKeywordChar c then some (.word [c], none) else none
  | .word keyword, c =>
    if c = ' ' then some (.blank, some (.word (String.ofList keyword)))
    else if c = '(' then some (.argument keyword, none)
    else if isKeywordChar c then some (.word (keyword ++ [c]), none)
    else none
  | .argument keyword, c =>
    if c = '\'' then some (.quoted keyword [], none)
    else if isBareChar c then some (.bare keyword [c], none)
    else none
  | .bare keyword value, c =>
    if c = ')' then some (.closed, some (.bare (String.ofList keyword) (String.ofList value)))
    else if isBareChar c then some (.bare keyword (value ++ [c]), none)
    else none
  | .quoted keyword text, c =>
    if c = '\'' then some (.quote keyword text, none) else some (.quoted keyword (text ++ [c]), none)
  | .quote keyword text, c =>
    if c = '\'' then some (.quoted keyword (text ++ ['\'']), none)
    else if c = ')' then some (.closed, some (.quoted (String.ofList keyword) (String.ofList text)))
    else none
  | .closed, c => if c = ' ' then some (.blank, none) else none

/-- What the end of the command completes; an open argument is an error. -/
def Reader.finish : Reader → Option (List Clause)
  | .blank => some []
  | .closed => some []
  | .word keyword => some [.word (String.ofList keyword)]
  | _ => none

def readFrom : Reader → List Char → Option (List Clause)
  | reader, [] => reader.finish
  | reader, c :: cs => match reader.step c with
    | some (next, completed) => (readFrom next cs).map (completed.toList ++ ·)
    | none => none

/-- Clauses are separated by blanks only: a comma, a semicolon and a line break count as characters of a keyword. A
builder that wrote one outside a quoted text would be read otherwise by a queue manager. -/
def read (command : String) : Option (List Clause) := readFrom .blank command.toList

def Clause.WellFormed : Clause → Prop
  | .word keyword => keyword.toList ≠ [] ∧ keyword.toList.all isKeywordChar = true
  | .bare keyword value =>
    (keyword.toList ≠ [] ∧ keyword.toList.all isKeywordChar = true) ∧ value.toList ≠ [] ∧ value.toList.all isBareChar = true
  | .quoted keyword _ => keyword.toList ≠ [] ∧ keyword.toList.all isKeywordChar = true

theorem readFrom_of_step {reader next : Reader} {c : Char} (moved : reader.step c = some (next, none)) (cs : List Char) :
    readFrom reader (c :: cs) = readFrom next cs := by
  simp [readFrom, moved]

theorem readFrom_of_complete {reader next : Reader} {c : Char} {clause : Clause}
    (moved : reader.step c = some (next, some clause)) (cs : List Char) :
    readFrom reader (c :: cs) = (readFrom next cs).map (clause :: ·) := by
  rw [readFrom, moved]
  rfl

theorem isKeywordChar_ne {c : Char} (allowed : isKeywordChar c = true) : c ≠ ' ' ∧ c ≠ '(' := by
  simp only [isKeywordChar, Bool.and_eq_true, bne_iff_ne] at allowed
  exact ⟨allowed.1.1.1, allowed.1.1.2⟩

theorem isBareChar_ne {c : Char} (allowed : isBareChar c = true) : c ≠ ')' ∧ c ≠ '\'' := by
  simp only [isBareChar, Bool.and_eq_true, bne_iff_ne] at allowed
  exact ⟨allowed.1.2, allowed.2⟩

theorem readFrom_word (read keyword cs : List Char) (allowed : keyword.all isKeywordChar = true) :
    readFrom (.word read) (keyword ++ cs) = readFrom (.word (read ++ keyword)) cs := by
  induction keyword generalizing read with
  | nil => simp
  | cons c keyword ih =>
    obtain ⟨first, rest⟩ := Bool.and_eq_true_iff.mp (List.all_cons ▸ allowed)
    obtain ⟨noBlank, noOpen⟩ := isKeywordChar_ne first
    rw [List.cons_append, readFrom_of_step (by rw [Reader.step, if_neg noBlank, if_neg noOpen, if_pos first]), ih _ rest]
    simp

theorem readFrom_keyword {keyword : List Char} (some_char : keyword ≠ []) (allowed : keyword.all isKeywordChar = true)
    (cs : List Char) : readFrom .blank (keyword ++ cs) = readFrom (.word keyword) cs := by
  cases keyword with
  | nil => exact absurd rfl some_char
  | cons c keyword =>
    obtain ⟨first, rest⟩ := Bool.and_eq_true_iff.mp (List.all_cons ▸ allowed)
    rw [List.cons_append, readFrom_of_step (by rw [Reader.step, if_neg (isKeywordChar_ne first).1, if_pos first]),
      readFrom_word _ _ _ rest]
    rfl

theorem readFrom_bare (keyword read value cs : List Char) (allowed : value.all isBareChar = true) :
    readFrom (.bare keyword read) (value ++ ')' :: cs) =
      (readFrom .closed cs).map (.bare (String.ofList keyword) (String.ofList (read ++ value)) :: ·) := by
  induction value generalizing read with
  | nil =>
    rw [List.nil_append, readFrom_of_complete rfl, List.append_nil]
  | cons c value ih =>
    obtain ⟨first, rest⟩ := Bool.and_eq_true_iff.mp (List.all_cons ▸ allowed)
    rw [List.cons_append,
      readFrom_of_step (by rw [Reader.step, if_neg (isBareChar_ne first).1, if_pos first]), ih _ rest]
    simp

theorem readFrom_quoted (keyword read text cs : List Char) :
    readFrom (.quoted keyword read) (doubleQuotes text ++ '\'' :: ')' :: cs) =
      (readFrom .closed cs).map (.quoted (String.ofList keyword) (String.ofList (read ++ text)) :: ·) := by
  induction text generalizing read with
  | nil =>
    rw [doubleQuotes, List.flatMap_nil, List.nil_append, readFrom_of_step rfl, readFrom_of_complete rfl, List.append_nil]
  | cons c text ih =>
    rw [doubleQuotes, List.flatMap_cons, ← doubleQuotes]
    by_cases isQuote : c = '\''
    · subst isQuote
      rw [if_pos rfl, List.append_assoc, List.cons_append, readFrom_of_step rfl, List.singleton_append,
        readFrom_of_step rfl, ih]
      simp
    · rw [if_neg isQuote, List.append_assoc, List.singleton_append,
        readFrom_of_step (by rw [Reader.step, if_neg isQuote]), ih]
      simp

theorem readFrom_closed (cs : List Char) : readFrom .closed (' ' :: cs) = readFrom .blank cs := readFrom_of_step rfl cs

theorem readFrom_argument {keyword : List Char} (some_char : keyword ≠ [])
    (allowed : keyword.all isKeywordChar = true) (cs : List Char) :
    readFrom .blank (keyword ++ '(' :: cs) = readFrom (.argument keyword) cs := by
  rw [readFrom_keyword some_char allowed, readFrom_of_step rfl]

theorem readFrom_write {clause : Clause} (formed : clause.WellFormed) :
    readFrom .blank clause.write = some [clause] ∧
      ∀ cs, readFrom .blank (clause.write ++ ' ' :: cs) = (readFrom .blank cs).map (clause :: ·) := by
  cases clause with
  | word keyword =>
    constructor
    · have whole := readFrom_keyword formed.1 formed.2 []
      rw [List.append_nil] at whole
      rw [Clause.write, whole, readFrom, Reader.finish, String.ofList_toList]
    · intro cs
      rw [Clause.write, readFrom_keyword formed.1 formed.2, readFrom_of_complete rfl, String.ofList_toList]
  | bare keyword value =>
    obtain ⟨⟨some_char, allowed⟩, some_value, plain⟩ := formed
    have body : ∀ cs, readFrom .blank ((Clause.bare keyword value).write ++ cs) =
        (readFrom .closed cs).map (Clause.bare keyword value :: ·) := by
      intro cs
      rw [Clause.write, List.append_assoc, List.cons_append, List.append_assoc, readFrom_argument some_char allowed]
      cases chars : value.toList with
      | nil => exact absurd chars some_value
      | cons c rest =>
        rw [chars] at plain
        obtain ⟨first, others⟩ := Bool.and_eq_true_iff.mp (List.all_cons ▸ plain)
        rw [List.cons_append, readFrom_of_step (by rw [Reader.step, if_neg (isBareChar_ne first).2, if_pos first]),
          List.singleton_append, readFrom_bare _ _ _ _ others, List.singleton_append, ← chars, String.ofList_toList,
          String.ofList_toList]
    constructor
    · have whole := body []
      rw [List.append_nil] at whole
      rw [whole]
      rfl
    · intro cs
      rw [body, readFrom_closed]
  | quoted keyword text =>
    have body : ∀ cs, readFrom .blank ((Clause.quoted keyword text).write ++ cs) =
        (readFrom .closed cs).map (Clause.quoted keyword text :: ·) := by
      intro cs
      rw [Clause.write, List.append_assoc, List.cons_append, List.cons_append, List.append_assoc,
        readFrom_argument formed.1 formed.2, readFrom_of_step rfl]
      have rest := readFrom_quoted keyword.toList [] text.toList cs
      rw [List.nil_append, String.ofList_toList, String.ofList_toList] at rest
      exact rest
    constructor
    · have whole := body []
      rw [List.append_nil] at whole
      rw [whole]
      rfl
    · intro cs
      rw [body, readFrom_closed]

/-- Reading undoes writing, clause by clause. -/
theorem read_write (clauses : List Clause) (formed : ∀ clause ∈ clauses, clause.WellFormed) :
    readFrom .blank (write clauses) = some clauses := by
  induction clauses with
  | nil => rfl
  | cons clause clauses ih =>
    have here := readFrom_write (formed clause (List.mem_cons_self ..))
    have later := ih fun other member => formed other (List.mem_cons_of_mem _ member)
    cases clauses with
    | nil => simpa [write] using here.1
    | cons second rest =>
      rw [write_cons clause (by simp), here.2, later]
      rfl

def IsKeyword (keyword : List Char) : Prop := keyword ≠ [] ∧ keyword.all isKeywordChar = true

def Clause.keyword : Clause → String
  | .word keyword => keyword
  | .bare keyword _ => keyword
  | .quoted keyword _ => keyword

def Reader.keyword? : Reader → Option (List Char)
  | .blank => none
  | .closed => none
  | .word keyword => some keyword
  | .argument keyword => some keyword
  | .bare keyword _ => some keyword
  | .quoted keyword _ => some keyword
  | .quote keyword _ => some keyword

inductive KeywordMove (held : Option (List Char)) (c : Char) : Option (List Char) → Option Clause → Prop
  | kept : KeywordMove held c held none
  | grown (allowed : isKeywordChar c = true) : KeywordMove held c (some (held.getD [] ++ [c])) none
  | completed {keyword : List Char} {clause : Clause} (was_held : held = some keyword)
      (spelled : clause.keyword = String.ofList keyword) : KeywordMove held c none (some clause)

theorem Reader.step_move {reader next : Reader} {c : Char} {completed : Option Clause}
    (moved : reader.step c = some (next, completed)) : KeywordMove reader.keyword? c next.keyword? completed := by
  cases reader with
  | blank =>
    rw [Reader.step] at moved
    split at moved
    · cases moved; exact .kept
    · split at moved
      next allowed => cases moved; exact .grown allowed
      next => cases moved
  | word keyword =>
    rw [Reader.step] at moved
    split at moved
    · cases moved; exact .completed rfl rfl
    · split at moved
      · cases moved; exact .kept
      · split at moved
        next allowed => cases moved; exact .grown allowed
        next => cases moved
  | argument keyword =>
    rw [Reader.step] at moved
    split at moved
    · cases moved; exact .kept
    · split at moved
      · cases moved; exact .kept
      · cases moved
  | bare keyword value =>
    rw [Reader.step] at moved
    split at moved
    · cases moved; exact .completed rfl rfl
    · split at moved
      · cases moved; exact .kept
      · cases moved
  | quoted keyword text =>
    rw [Reader.step] at moved
    split at moved
    · cases moved; exact .kept
    · cases moved; exact .kept
  | quote keyword text =>
    rw [Reader.step] at moved
    split at moved
    · cases moved; exact .kept
    · split at moved
      · cases moved; exact .completed rfl rfl
      · cases moved
  | closed =>
    rw [Reader.step] at moved
    split at moved
    · cases moved; exact .kept
    · cases moved

theorem KeywordMove.formed {held later : Option (List Char)} {c : Char} {completed : Option Clause}
    (move : KeywordMove held c later completed) (formed : ∀ keyword ∈ held, IsKeyword keyword) :
    (∀ keyword ∈ later, IsKeyword keyword) ∧ ∀ clause ∈ completed, IsKeyword clause.keyword.toList := by
  cases move with
  | kept => exact ⟨formed, fun clause none_there => by cases none_there⟩
  | grown allowed =>
    refine ⟨?_, fun clause none_there => by cases none_there⟩
    intro keyword longer
    cases longer
    refine ⟨List.append_ne_nil_of_right_ne_nil _ (List.cons_ne_nil _ _), ?_⟩
    have start : (held.getD []).all isKeywordChar = true := by
      cases held with
      | none => rfl
      | some keyword => exact (formed keyword rfl).2
    rw [List.all_append, start, List.all_cons, allowed]
    rfl
  | completed was_held spelled =>
    refine ⟨fun keyword none_there => (by cases none_there), ?_⟩
    intro clause here
    cases here
    rw [spelled, String.toList_ofList]
    exact formed _ was_held

theorem readFrom_keyword_formed {reader : Reader} {cs : List Char} {clauses : List Clause}
    (held : ∀ keyword ∈ reader.keyword?, IsKeyword keyword) (found : readFrom reader cs = some clauses) :
    ∀ clause ∈ clauses, IsKeyword clause.keyword.toList := by
  induction cs generalizing reader clauses with
  | nil =>
    cases reader with
    | word keyword =>
      cases found
      rw [List.forall_mem_singleton, Clause.keyword, String.toList_ofList]
      exact held keyword rfl
    | blank => cases found; exact fun clause member => nomatch member
    | closed => cases found; exact fun clause member => nomatch member
    | argument keyword => cases found
    | bare keyword value => cases found
    | quoted keyword text => cases found
    | quote keyword text => cases found
  | cons c cs ih =>
    rw [readFrom] at found
    cases moved : reader.step c with
    | none => rw [moved] at found; cases found
    | some result =>
      obtain ⟨next, completed⟩ := result
      rw [moved] at found
      obtain ⟨later, read_later, rfl⟩ := Option.map_eq_some_iff.mp found
      obtain ⟨kept, here⟩ := (Reader.step_move moved).formed held
      rw [List.forall_mem_append]
      exact ⟨fun clause member => here clause (Option.mem_toList.mp member), ih kept read_later⟩

section Tokens

/-- A clause whose bare argument is a list with commas between its items. -/
inductive Token where
  | word (keyword : String)
  | items (keyword : String) (values : List String)
  | text (keyword value : String)
  deriving DecidableEq, Repr

def Token.clause : Token → Clause
  | .word keyword => .word keyword
  | .items keyword values => .bare keyword (join values ",")
  | .text keyword value => .quoted keyword value

def Clause.token : Clause → Token
  | .word keyword => .word keyword
  | .bare keyword value => .items keyword (split value ',')
  | .quoted keyword value => .text keyword value

def tokenize (command : String) : Option (List Token) := (read command).map (List.map Clause.token)

def isItemChar (c : Char) : Bool := isBareChar c && c != ','

def Item (value : String) : Prop := value.toList ≠ [] ∧ value.toList.all isItemChar = true

def Token.WellFormed : Token → Prop
  | .word keyword => keyword.toList ≠ [] ∧ keyword.toList.all isKeywordChar = true
  | .items keyword values =>
    (keyword.toList ≠ [] ∧ keyword.toList.all isKeywordChar = true) ∧ values ≠ [] ∧ ∀ value ∈ values, Item value
  | .text keyword _ => keyword.toList ≠ [] ∧ keyword.toList.all isKeywordChar = true

theorem Item.char {value : String} (item : Item value) {c : Char} (inside : c ∈ value.toList) :
    isBareChar c = true ∧ c ≠ ',' := by
  have allowed := List.all_eq_true.mp item.2 c inside
  rw [isItemChar, Bool.and_eq_true, bne_iff_ne] at allowed
  exact allowed

theorem Token.WellFormed.clause {token : Token} (formed : token.WellFormed) : token.clause.WellFormed := by
  cases token with
  | word keyword => exact formed
  | text keyword value => exact formed
  | items keyword values =>
    obtain ⟨keywordFormed, listed, items⟩ := formed
    obtain ⟨value, rest, shape⟩ := List.exists_cons_of_ne_nil listed
    refine ⟨keywordFormed, ?_, all_join (fun value member => ?_) (by decide)⟩
    · exact join_ne_empty _ shape (items value (shape ▸ List.mem_cons_self ..)).1
    · exact List.all_eq_true.mpr fun c inside => ((items value member).char inside).1

theorem Token.WellFormed.token_clause {token : Token} (formed : token.WellFormed) : token.clause.token = token := by
  cases token with
  | word keyword => rfl
  | text keyword value => rfl
  | items keyword values =>
    obtain ⟨-, listed, items⟩ := formed
    have parts : split (join values ",") ',' = values :=
      split_join values ',' listed fun value member comma => ((items value member).char comma).2 rfl
    rw [Token.clause, Clause.token, parts]

theorem tokenize_write {tokens : List Token} (formed : ∀ token ∈ tokens, token.WellFormed) :
    tokenize (String.ofList (write (tokens.map Token.clause))) = some tokens := by
  have clauses : ∀ clause ∈ tokens.map Token.clause, clause.WellFormed := by
    intro clause member
    obtain ⟨token, inside, rfl⟩ := List.mem_map.mp member
    exact (formed token inside).clause
  have back : (tokens.map Token.clause).map Clause.token = tokens := by
    rw [List.map_map]
    calc tokens.map (Clause.token ∘ Token.clause) = tokens.map id :=
          List.map_congr_left fun token inside => (formed token inside).token_clause
      _ = tokens := List.map_id tokens
  rw [tokenize, read, String.toList_ofList, read_write _ clauses, Option.map_some, back]

end Tokens

end MKurator.Lib.Mqsc
