import MKurator.Lib.Strings

/-! The log handler that masks credentials, against a mask that reaches into groups. -/

namespace MKurator.Logging
open MKurator.Lib.Strings

/-- A list of `slog` attributes, each with a plain value or with a group of attributes. -/
inductive Attrs where
  | nil
  | plain (key value : String) (rest : Attrs)
  | group (key : String) (members rest : Attrs)
  deriving DecidableEq, Repr

structure Record where
  time : Nat
  level : Int
  message : String
  pc : Nat
  attrs : Attrs
  deriving DecidableEq, Repr

def sensitiveKeys : List String :=
  ["password", "passwd", "token", "authorization", "secret", "credentials", "csrf", "apikey", "api_key"]

def redacted : String := "[REDACTED]"

inductive HandlerCall where
  | withAttrs (attrs : Attrs)
  | withGroup (name : String)
  deriving DecidableEq, Repr

inductive NextCall where
  | withAttrs (attrs : Attrs)
  | withGroup (name : String)
  | handle (record : Record)
  deriving DecidableEq, Repr

/-- A handler, with the calls that have led to the handler behind it. -/
structure RedactHandler where
  next : List NextCall

def newRedactHandler : RedactHandler := ⟨[]⟩

section Handling

variable [UnicodeTables]

def sensitive (key : String) : Bool := decide (toLower key ∈ sensitiveKeys)

/-- `redactAttr` of each attribute. The members of a group stay as they are. -/
def redactAttrs : Attrs → Attrs
  | .nil => .nil
  | .plain key value rest => .plain key (if sensitive key then redacted else value) (redactAttrs rest)
  | .group key members rest =>
    if sensitive key then .plain key redacted (redactAttrs rest) else .group key members (redactAttrs rest)

namespace RedactHandler

def withAttrs (h : RedactHandler) (attrs : Attrs) : RedactHandler := ⟨h.next ++ [.withAttrs (redactAttrs attrs)]⟩

def withGroup (h : RedactHandler) (name : String) : RedactHandler := ⟨h.next ++ [.withGroup name]⟩

/-- A record without attributes is passed on as it is. -/
def handle (h : RedactHandler) (record : Record) : List NextCall :=
  if record.attrs = .nil then h.next ++ [.handle record]
  else h.next ++ [.handle { record with attrs := redactAttrs record.attrs }]

def call (h : RedactHandler) : HandlerCall → RedactHandler
  | .withAttrs attrs => h.withAttrs attrs
  | .withGroup name => h.withGroup name

end RedactHandler

structure LogRun where
  calls : List HandlerCall
  record : Record

def LogRun.passed (run : LogRun) : List NextCall :=
  (run.calls.foldl RedactHandler.call newRedactHandler).handle run.record

namespace Attrs

def mask : Attrs → Attrs
  | .nil => .nil
  | .plain key value rest => .plain key (if sensitive key then redacted else value) rest.mask
  | .group key members rest =>
    if sensitive key then .plain key redacted rest.mask else .group key members.mask rest.mask

def Redacted : Attrs → Prop
  | .nil => True
  | .plain key value rest => (sensitive key = true → value = redacted) ∧ rest.Redacted
  | .group key members rest => sensitive key = false ∧ members.Redacted ∧ rest.Redacted

def Harmless : Attrs → Prop
  | .nil => True
  | .plain key _ rest => sensitive key = false ∧ rest.Harmless
  | .group key members rest => sensitive key = false ∧ members.Harmless ∧ rest.Harmless

/-- No sensitive key is inside a group, unless the key of the whole group is sensitive. -/
def Shallow : Attrs → Prop
  | .nil => True
  | .plain _ _ rest => rest.Shallow
  | .group key members rest => (sensitive key = true ∨ members.Harmless) ∧ rest.Shallow

def tamper : Attrs → Attrs
  | .nil => .nil
  | .plain key value rest => .plain key (if sensitive key then value ++ "*" else value) rest.tamper
  | .group key members rest =>
    if sensitive key then .plain key "*" rest.tamper else .group key members.tamper rest.tamper

theorem mask_of_harmless {attrs : Attrs} (harmless : attrs.Harmless) : attrs.mask = attrs := by
  induction attrs with
  | nil => rfl
  | plain key value rest ih =>
    obtain ⟨ordinary, others⟩ := harmless
    rw [mask, ordinary, ih others]
    rfl
  | group key members rest inner ih =>
    obtain ⟨ordinary, within, others⟩ := harmless
    rw [mask, ordinary, inner within, ih others]
    rfl

theorem harmless_of_mask {attrs : Attrs} (harmless : attrs.mask.Harmless) : attrs.Harmless := by
  induction attrs with
  | nil => trivial
  | plain key value rest ih => exact ⟨harmless.1, ih harmless.2⟩
  | group key members rest inner ih =>
    rw [mask] at harmless
    cases kind : sensitive key with
    | true =>
      rw [if_pos kind] at harmless
      exact absurd harmless.1 (by simp [kind])
    | false =>
      rw [kind] at harmless
      exact ⟨kind, inner harmless.2.1, ih harmless.2.2⟩

theorem redactAttrs_of_shallow {attrs : Attrs} (shallow : attrs.Shallow) : redactAttrs attrs = attrs.mask := by
  induction attrs with
  | nil => rfl
  | plain key value rest ih => rw [redactAttrs, mask, ih shallow]
  | group key members rest _ ih =>
    obtain ⟨within, others⟩ := shallow
    rw [redactAttrs, mask, ih others]
    cases kind : sensitive key with
    | true => rfl
    | false =>
      have harmless : members.Harmless := within.resolve_left (by simp [kind])
      rw [mask_of_harmless harmless]

theorem shallow_of_mask {attrs : Attrs} (shallow : attrs.mask.Shallow) : attrs.Shallow := by
  induction attrs with
  | nil => trivial
  | plain key value rest ih => exact ih shallow
  | group key members rest _ ih =>
    rw [mask] at shallow
    cases kind : sensitive key with
    | true =>
      rw [if_pos kind] at shallow
      exact ⟨.inl kind, ih shallow⟩
    | false =>
      rw [kind] at shallow
      obtain ⟨within, others⟩ := shallow
      exact ⟨.inr (harmless_of_mask (within.resolve_left (by simp [kind]))), ih others⟩

theorem shallow_mask {attrs : Attrs} (shallow : attrs.Shallow) : attrs.mask.Shallow := by
  induction attrs with
  | nil => trivial
  | plain key value rest ih => exact ih shallow
  | group key members rest _ ih =>
    obtain ⟨within, others⟩ := shallow
    rw [mask]
    cases kind : sensitive key with
    | true => exact ih others
    | false =>
      have harmless : members.Harmless := within.resolve_left (by simp [kind])
      rw [mask_of_harmless harmless]
      exact ⟨.inr harmless, ih others⟩

theorem redacted_mask (attrs : Attrs) : attrs.mask.Redacted := by
  induction attrs with
  | nil => trivial
  | plain key value rest ih => exact ⟨fun kind => if_pos kind, ih⟩
  | group key members rest inner ih =>
    rw [mask]
    cases kind : sensitive key with
    | true => exact ⟨fun _ => rfl, ih⟩
    | false => exact ⟨kind, inner, ih⟩

theorem mask_tamper (attrs : Attrs) : attrs.tamper.mask = attrs.mask := by
  induction attrs with
  | nil => rfl
  | plain key value rest ih =>
    rw [tamper, mask, mask, ih]
    cases kind : sensitive key <;> rfl
  | group key members rest inner ih =>
    rw [tamper]
    cases kind : sensitive key with
    | true =>
      rw [if_pos rfl, mask, mask, ih, kind]
      rfl
    | false =>
      rw [if_neg Bool.false_ne_true, mask, mask, inner, ih, kind]

theorem harmless_of_tamper {attrs : Attrs} (same : attrs.tamper = attrs) : attrs.Harmless := by
  induction attrs with
  | nil => trivial
  | plain key value rest ih =>
    rw [tamper] at same
    injection same with _ sameValue sameRest
    refine ⟨?_, ih sameRest⟩
    by_contra kind
    rw [if_pos (by simpa using kind)] at sameValue
    have lengths := congrArg String.length sameValue
    simp at lengths
  | group key members rest inner ih =>
    rw [tamper] at same
    cases kind : sensitive key with
    | true =>
      rw [if_pos kind] at same
      cases same
    | false =>
      rw [kind] at same
      injection same with _ sameMembers sameRest
      exact ⟨kind, inner sameMembers, ih sameRest⟩

theorem shallow_of_unseen {attrs : Attrs} (unseen : redactAttrs attrs.tamper = redactAttrs attrs) : attrs.Shallow := by
  induction attrs with
  | nil => trivial
  | plain key value rest ih =>
    rw [tamper, redactAttrs, redactAttrs] at unseen
    injection unseen with _ _ sameRest
    exact ih sameRest
  | group key members rest _ ih =>
    rw [tamper] at unseen
    cases kind : sensitive key with
    | true =>
      simp only [kind, if_true, redactAttrs] at unseen
      injection unseen with _ _ sameRest
      exact ⟨.inl kind, ih sameRest⟩
    | false =>
      simp only [kind, Bool.false_eq_true, if_false, redactAttrs] at unseen
      injection unseen with _ sameMembers sameRest
      exact ⟨.inr (harmless_of_tamper sameMembers), ih sameRest⟩

end Attrs

namespace HandlerCall

def mapAttrs (change : Attrs → Attrs) : HandlerCall → HandlerCall
  | .withAttrs attrs => .withAttrs (change attrs)
  | .withGroup name => .withGroup name

def forward : HandlerCall → NextCall
  | .withAttrs attrs => .withAttrs attrs
  | .withGroup name => .withGroup name

def attrs : HandlerCall → Option Attrs
  | .withAttrs attrs => some attrs
  | .withGroup _ => none

end HandlerCall

def NextCall.attrs : NextCall → Option Attrs
  | .withAttrs attrs => some attrs
  | .withGroup _ => none
  | .handle record => some record.attrs

namespace LogRun

def mapAttrs (change : Attrs → Attrs) (run : LogRun) : LogRun :=
  ⟨run.calls.map (HandlerCall.mapAttrs change), { run.record with attrs := change run.record.attrs }⟩

def forward (run : LogRun) : List NextCall := run.calls.map HandlerCall.forward ++ [.handle run.record]

def given (run : LogRun) : List Attrs := run.calls.filterMap HandlerCall.attrs ++ [run.record.attrs]

/-- The two runs differ only in values under sensitive keys. -/
def SameButSensitive (first second : LogRun) : Prop := first.mapAttrs Attrs.mask = second.mapAttrs Attrs.mask

theorem next_foldl (h : RedactHandler) (calls : List HandlerCall) :
    (calls.foldl RedactHandler.call h).next = h.next ++ calls.map fun c => (c.mapAttrs redactAttrs).forward := by
  induction calls generalizing h with
  | nil => rw [List.foldl_nil, List.map_nil, List.append_nil]
  | cons c calls ih =>
    rw [List.foldl_cons, ih, List.map_cons]
    cases c with
    | withAttrs attrs => exact List.append_assoc ..
    | withGroup name => exact List.append_assoc ..

theorem handle_eq (h : RedactHandler) (record : Record) :
    h.handle record = h.next ++ [.handle { record with attrs := redactAttrs record.attrs }] := by
  rw [RedactHandler.handle]
  split
  next empty =>
    obtain ⟨time, level, message, pc, attrs⟩ := record
    cases empty
    rfl
  next => rfl

theorem passed_eq (run : LogRun) : run.passed = (run.mapAttrs redactAttrs).forward := by
  rw [passed, handle_eq, next_foldl, forward, mapAttrs, List.map_map]
  rfl

end LogRun

end Handling

namespace LogRun

theorem mapAttrs_mapAttrs (first second : Attrs → Attrs) (run : LogRun) :
    (run.mapAttrs first).mapAttrs second = run.mapAttrs (second ∘ first) := by
  rw [mapAttrs, mapAttrs, mapAttrs, List.map_map]
  congr 2
  funext c
  cases c <;> rfl

theorem given_mapAttrs (change : Attrs → Attrs) (run : LogRun) : (run.mapAttrs change).given = run.given.map change := by
  rw [given, given, mapAttrs, List.filterMap_map, List.map_append, List.map_filterMap]
  congr 2
  funext c
  cases c <;> rfl

theorem attrs_forward (run : LogRun) : run.forward.filterMap NextCall.attrs = run.given := by
  rw [forward, given, List.filterMap_append, List.filterMap_map]
  congr 2
  funext c
  cases c <;> rfl

theorem forward_injective {first second : LogRun} (same : first.forward = second.forward) : first = second := by
  have injective : Function.Injective HandlerCall.forward := by
    intro c c' equal
    cases c <;> cases c' <;> cases equal <;> rfl
  obtain ⟨firstCalls, firstRecord⟩ := first
  obtain ⟨secondCalls, secondRecord⟩ := second
  obtain ⟨calls, record⟩ := List.append_inj' same rfl
  have sameCalls : firstCalls = secondCalls := injective.list_map calls
  cases record
  rw [sameCalls]

theorem mapAttrs_congr {run : LogRun} {first second : Attrs → Attrs} (same : ∀ attrs ∈ run.given, first attrs = second attrs) :
    run.mapAttrs first = run.mapAttrs second := by
  obtain ⟨calls, record⟩ := run
  obtain ⟨called, recorded⟩ := List.forall_mem_append.mp same
  have sameCalls : calls.map (HandlerCall.mapAttrs first) = calls.map (HandlerCall.mapAttrs second) := by
    apply List.map_congr_left
    intro c member
    cases c with
    | withAttrs attrs => exact congrArg _ (called attrs (List.mem_filterMap.mpr ⟨_, member, rfl⟩))
    | withGroup name => rfl
  have sameRecord : first record.attrs = second record.attrs := recorded _ (List.mem_singleton.mpr rfl)
  rw [mapAttrs, mapAttrs, sameCalls, sameRecord]

theorem eq_of_mapAttrs {run : LogRun} {first second : Attrs → Attrs} (same : run.mapAttrs first = run.mapAttrs second) :
    ∀ attrs ∈ run.given, first attrs = second attrs := by
  have lists := congrArg LogRun.given same
  rw [given_mapAttrs, given_mapAttrs] at lists
  exact List.map_inj_left.mp lists

section Redaction

variable [UnicodeTables] {run : LogRun}

theorem passed_of_shallow (shallow : ∀ attrs ∈ run.given, attrs.Shallow) :
    run.passed = (run.mapAttrs Attrs.mask).forward := by
  rw [passed_eq, mapAttrs_congr fun attrs member => Attrs.redactAttrs_of_shallow (shallow attrs member)]

theorem SameButSensitive.shallow {other : LogRun} (same : other.SameButSensitive run)
    (shallow : ∀ attrs ∈ run.given, attrs.Shallow) : ∀ attrs ∈ other.given, attrs.Shallow := by
  have lists := congrArg LogRun.given same
  rw [given_mapAttrs, given_mapAttrs] at lists
  intro attrs member
  have masked : attrs.mask ∈ run.given.map Attrs.mask := lists ▸ List.mem_map_of_mem member
  obtain ⟨counterpart, given, equal⟩ := List.mem_map.mp masked
  apply Attrs.shallow_of_mask
  rw [← equal]
  exact Attrs.shallow_mask (shallow counterpart given)

/-- The handler lets no value under a sensitive key through, and such values make no difference to what it lets through,
exactly if no sensitive key is inside a group. -/
theorem redaction_complete_iff (run : LogRun) :
    ((∀ attrs ∈ run.passed.filterMap NextCall.attrs, attrs.Redacted) ∧
      ∀ other : LogRun, other.SameButSensitive run → other.passed = run.passed) ↔
    ∀ attrs ∈ run.given, attrs.Shallow := by
  constructor
  · rintro ⟨-, unseen⟩ attrs member
    have tampered : (run.mapAttrs Attrs.tamper).SameButSensitive run := by
      rw [SameButSensitive, mapAttrs_mapAttrs]
      exact mapAttrs_congr fun attrs _ => Attrs.mask_tamper attrs
    have same := unseen _ tampered
    rw [passed_eq, passed_eq, mapAttrs_mapAttrs] at same
    exact Attrs.shallow_of_unseen (eq_of_mapAttrs (forward_injective same) attrs member)
  · intro shallow
    refine ⟨fun attrs member => ?_, fun other same => ?_⟩
    · rw [passed_of_shallow shallow, attrs_forward, given_mapAttrs] at member
      obtain ⟨original, -, rfl⟩ := List.mem_map.mp member
      exact Attrs.redacted_mask original
    · rw [passed_of_shallow shallow, passed_of_shallow (same.shallow shallow), same]

end Redaction

end LogRun

section Concrete

attribute [local instance] asciiTables

def connectedRecord (attrs : Attrs) : Record := ⟨0, 0, "connected", 0, attrs⟩

def groupedPassword (password : String) : LogRun :=
  ⟨[], connectedRecord (.group "conn" (.plain "password" password .nil) .nil)⟩

/-- The next handler receives the password, and two passwords give different logs. -/
theorem groupedPassword_leaks :
    (groupedPassword "hunter2").passed = (groupedPassword "hunter2").forward ∧
      (groupedPassword "hunter2").SameButSensitive (groupedPassword "letmein") ∧
      (groupedPassword "hunter2").passed ≠ (groupedPassword "letmein").passed := by
  refine ⟨rfl, rfl, by decide⟩

def topLevelPassword : LogRun :=
  ⟨[.withAttrs (.plain "Password" "hunter2" .nil), .withGroup "conn"],
    connectedRecord (.group "peer" (.plain "channel" "DEV.APP.SVRCONN" .nil) (.plain "token" "abc123" .nil))⟩

theorem redaction_complete_topLevelPassword :
    (∀ attrs ∈ topLevelPassword.passed.filterMap NextCall.attrs, attrs.Redacted) ∧
      ∀ other : LogRun, other.SameButSensitive topLevelPassword → other.passed = topLevelPassword.passed := by
  apply (LogRun.redaction_complete_iff topLevelPassword).mpr
  intro attrs member
  rcases List.mem_cons.mp member with rfl | member
  · trivial
  · cases List.mem_singleton.mp member
    exact ⟨.inr ⟨by decide, trivial⟩, trivial⟩

end Concrete

end MKurator.Logging
