import Mathlib.Data.Finset.Card
import MKurator.Lib.Journal
import MKurator.MqRest.Sessions

/-! The logins of an LTPA client that serves any number of requests at once, in any interleaving. -/

namespace MKurator.MqRest
open MKurator.MqAdmin MKurator.Lib MKurator.Lib.Processes MKurator.Lib.Journal

/-- A client's requests in the order in which they came, what they share, and the record of what they did. -/
structure Sessions where
  shared : Shared
  clock : Int
  requests : List Stage
  log : List Happening

inductive SessionEvent where
  | tick (later : Int)
  | request
  | proceed (index : Nat) (input : Input)

namespace Sessions

def start (failureThreshold openTimeout clock : Int) : Sessions :=
  ⟨⟨newCircuitBreaker failureThreshold openTimeout, ⟨[], 0⟩⟩, clock, [], []⟩

def settle (s : Sessions) (index : Nat) (move : Move) : Sessions :=
  { s with
    shared := move.shared
    requests := s.requests.set index move.stage
    log := s.log ++ move.record.toList }

variable (client : Client) (errorMsgIDs : String → List String)

def next (s : Sessions) : SessionEvent → Sessions
  | .tick later => { s with clock := later }
  | .request => { s with requests := s.requests ++ [.entered] }
  | .proceed index input =>
    match s.requests[index]? with
    | none => s
    | some stage => s.settle index (stage.move client errorMsgIDs s.clock s.shared index input)

def valid (s : Sessions) : SessionEvent → Prop
  | .tick later => s.clock ≤ later
  | .request => True
  | .proceed index input => ∃ stage, s.requests[index]? = some stage ∧ stage.Awaits client input

end Sessions

/-- The server may refuse any cookie at any time, and a login may meet any answer. -/
def sessions (client : Client) (errorMsgIDs : String → List String) : System Sessions SessionEvent :=
  ⟨Sessions.valid client, Sessions.next client errorMsgIDs⟩

structure PendingLogin where
  kind : LoginKind
  seenToken : Nat
  next : Stage

def Stage.pendingLogin : Stage → Option PendingLogin
  | .loginNeeded seen => some ⟨.initial, seen, .loggedIn⟩
  | .refused seenToken sent => some ⟨.again, seenToken, .calling (.retry sent)⟩
  | _ => none

inductive MoveCase (errorMsgIDs : String → List String) (shared : Shared) (request : Nat) :
    Stage → Input → Move → Prop
  | cold (input : Input) (empty : shared.session.cookies = []) :
      MoveCase errorMsgIDs shared request .entered input ⟨.loginNeeded shared.session.gen, shared, none⟩
  | cached (input : Input) (held : shared.session.cookies ≠ []) :
      MoveCase errorMsgIDs shared request .entered input ⟨.calling (.first shared.session.gen), shared, none⟩
  | token (input : Input) :
      MoveCase errorMsgIDs shared request .loggedIn input ⟨.calling (.first shared.session.gen), shared, none⟩
  | superseded (stage : Stage) (input : Input) (login : PendingLogin) (pending : stage.pendingLogin = some login)
      (advanced : shared.session.gen ≠ login.seenToken) :
      MoveCase errorMsgIDs shared request stage input ⟨login.next, shared, none⟩
  | loginFailed (stage : Stage) (input : Input) (login : PendingLogin) (pending : stage.pendingLogin = some login)
      (current : shared.session.gen = login.seenToken) (e : MqError) :
      MoveCase errorMsgIDs shared request stage input
        ⟨.returned (.error e), shared, some (.login request login.kind login.seenToken false)⟩
  | loginSucceeded (stage : Stage) (input : Input) (login : PendingLogin) (pending : stage.pendingLogin = some login)
      (current : shared.session.gen = login.seenToken) (cookies : List String) (held : cookies ≠ []) :
      MoveCase errorMsgIDs shared request stage input
        ⟨login.next, { shared with session := ⟨cookies, login.seenToken + 1⟩ },
          some (.login request login.kind login.seenToken true)⟩
  | tripRefused (leg : Leg) (input : Input) (e : MqError) (after : CircuitBreaker) :
      MoveCase errorMsgIDs shared request (.calling leg) input
        ⟨.returned (.error e), { shared with breaker := after }, some (.roundTrip request)⟩
  | tripStarted (leg : Leg) (input : Input) (loop : Attempts) (after : CircuitBreaker) :
      MoveCase errorMsgIDs shared request (.calling leg) input
        ⟨.attempting leg loop, { shared with breaker := after }, some (.roundTrip request)⟩
  | attached (leg : Leg) (loop : Attempts) (input : Input) (more : 0 < loop.remaining) :
      MoveCase errorMsgIDs shared request (.attempting leg loop) input
        ⟨.waiting leg loop shared.session, shared, some (.sent request shared.session.gen shared.session.cookies)⟩
  | again (leg : Leg) (loop next : Attempts) (attached : LTPASession) (input : Input) :
      MoveCase errorMsgIDs shared request (.waiting leg loop attached) input ⟨.attempting leg next, shared, none⟩
  | refused (seenToken : Nat) (loop : Attempts) (attached : LTPASession) (response : HttpResponse)
      (signal : shouldReauthenticate errorMsgIDs response = true) (after : CircuitBreaker) :
      MoveCase errorMsgIDs shared request (.waiting (.first seenToken) loop attached) (.answer (.answered response))
        ⟨.refused seenToken attached.gen, { shared with breaker := after }, some (.refused request attached.gen)⟩
  | returned (stage : Stage) (input : Input) (result : Except MqError HttpResponse) (after : CircuitBreaker) :
      MoveCase errorMsgIDs shared request stage input ⟨.returned result, { shared with breaker := after }, none⟩

section Cases

variable {client : Client} {errorMsgIDs : String → List String} {clock : Int} {shared : Shared} {request : Nat}

theorem loginCookies_ne_nil {result : LoginResult} {cookies : List String} (done : loginCookies result = .ok cookies) :
    cookies ≠ [] := by
  rcases result with _ | _ | _ | ⟨status, given⟩
  · cases done
  · cases done
  · cases done
  · rw [loginCookies] at done
    split at done
    · split at done
      · cases done
      · next held =>
        cases done
        exact held
    · split at done
      · cases done
      · split at done <;> cases done

theorem reauthenticate_cases (stage : Stage) (input : Input) {login : PendingLogin} (pending : stage.pendingLogin = some login)
    (result : LoginResult) : MoveCase errorMsgIDs shared request stage input
      (shared.reauthenticate request login.kind login.seenToken login.next result) := by
  rw [Shared.reauthenticate]
  by_cases current : shared.session.gen = login.seenToken
  · rw [if_neg (not_not.mpr current), current]
    cases answer : loginCookies result with
    | error e => exact .loginFailed stage input login pending current e
    | ok cookies => exact .loginSucceeded stage input login pending current cookies (loginCookies_ne_nil answer)
  · rw [if_pos current]
    exact .superseded stage input login pending current

theorem advance_ok {loop : Attempts} {turn : Turn} {report : Option Verdict} {response : HttpResponse}
    (ended : loop.advance client turn = .returned report (.ok response)) : turn = .sent (.answered response) := by
  rcases loop with ⟨_ | remaining, lastNetErr⟩
  · cases ended
  · rcases turn with cause | (_ | _ | cause | answer)
    · cases ended
    · cases ended
    · cases ended
    · change settled client remaining lastNetErr (.failed cause) = _ at ended
      rw [settled] at ended
      split at ended <;> cases ended
    · change settled client remaining lastNetErr (.answered answer) = _ at ended
      rw [settled] at ended
      split at ended
      · split at ended <;> cases ended
      · cases ended
        rfl

theorem move_cases (errorMsgIDs : String → List String) (clock : Int) (shared : Shared) (request : Nat) {stage : Stage}
    {input : Input} (awaited : stage.Awaits client input) :
    MoveCase errorMsgIDs shared request stage input (stage.move client errorMsgIDs clock shared request input) := by
  cases stage with
  | entered =>
    rw [Stage.move]
    by_cases empty : shared.session.cookies = []
    · rw [if_pos empty]
      exact .cold input empty
    · rw [if_neg empty]
      exact .cached input empty
  | loginNeeded seen =>
    cases input with
    | login result => exact reauthenticate_cases (.loginNeeded seen) _ rfl result
    | _ => exact absurd awaited not_false
  | loggedIn => exact .token input
  | calling leg =>
    rw [Stage.move]
    cases shared.breaker.beforeRequest clock with
    | mk refusal after =>
      cases refusal with
      | none => exact .tripStarted leg input _ after
      | some e => exact .tripRefused leg input e after
  | attempting leg loop =>
    cases input with
    | paused aborted =>
      rw [Stage.move]
      by_cases sends : 0 < loop.remaining ∧ aborted = none
      · rw [if_pos sends]
        exact .attached leg loop _ sends.1
      · obtain ⟨report, e, ended⟩ := advance_backoffAborted client loop (aborted.getD "")
        rw [if_neg sends, ended]
        cases leg <;> exact .returned _ _ (.error e) _
    | _ => exact absurd awaited not_false
  | waiting leg loop attached =>
    cases input with
    | answer result =>
      rw [Stage.move]
      cases ended : loop.advance client (.sent result) with
      | again next => exact .again leg loop next attached _
      | returned report outcome =>
        cases outcome with
        | error e => cases leg <;> exact .returned _ _ (.error e) _
        | ok response =>
          cases leg with
          | retry refused => exact .returned _ _ (.ok response) _
          | first seenToken =>
            rw [Shared.turnEnded]
            by_cases signal : shouldReauthenticate errorMsgIDs response = true
            · simp only [signal, if_true]
              obtain rfl : result = .answered response := Turn.sent.inj (advance_ok ended)
              exact .refused seenToken loop attached response signal _
            · simp only [signal]
              exact .returned _ _ (.ok (peeked response)) _
    | _ => exact absurd awaited not_false
  | refused seenToken sent =>
    cases input with
    | login result => exact reauthenticate_cases (.refused seenToken sent) _ rfl result
    | _ => exact absurd awaited not_false
  | returned result => cases input <;> exact absurd awaited not_false

end Cases

namespace Happening

def loginOver : Happening → Option Nat
  | .login _ _ replaced true => some replaced
  | _ => none

def refusedGen : Happening → Option Nat
  | .refused _ gen => some gen
  | _ => none

end Happening

def logins (log : List Happening) : List Nat := log.filterMap Happening.loginOver

def refusals (log : List Happening) : List Nat := log.filterMap Happening.refusedGen

theorem MoveCase.session_cases {errorMsgIDs : String → List String} {shared : Shared} {request : Nat} {stage : Stage}
    {input : Input} {move : Move} (moved : MoveCase errorMsgIDs shared request stage input move) :
    (move.shared.session = shared.session ∧ logins move.record.toList = []) ∨
      ∃ kind cookies, cookies ≠ [] ∧ move.shared.session = ⟨cookies, shared.session.gen + 1⟩ ∧
        move.record = some (.login request kind shared.session.gen true) := by
  cases moved with
  | loginSucceeded _ _ login pending current cookies held =>
    rw [current]
    exact .inr ⟨login.kind, cookies, held, rfl, rfl⟩
  | _ => exact .inl ⟨rfl, rfl⟩

def Happening.Allowed (before : List Happening) : Happening → Prop
  | .login _ .initial replaced _ => replaced = (logins before).length ∧ replaced = 0
  | .login request .again replaced _ =>
    replaced = (logins before).length ∧ 0 < replaced ∧ .refused request replaced ∈ before
  | .roundTrip _ => True
  | .sent _ gen cookies => cookies ≠ [] ∧ 0 < gen ∧ gen ≤ (logins before).length
  | .refused request gen => ∃ cookies, .sent request gen cookies ∈ before

structure Tally where
  initial : Nat
  again : Nat
  trips : Nat

def tally (log : List Happening) (request : Nat) : Tally where
  initial := log.countP fun
    | .login r .initial _ _ => r = request
    | _ => false
  again := log.countP fun
    | .login r .again _ _ => r = request
    | _ => false
  trips := log.countP fun
    | .roundTrip r => r = request
    | _ => false

namespace Tally

instance : Add Tally := ⟨fun a b => ⟨a.initial + b.initial, a.again + b.again, a.trips + b.trips⟩⟩

def Within (spent budget : Tally) : Prop :=
  spent.initial ≤ budget.initial ∧ spent.again ≤ budget.again ∧ spent.trips ≤ budget.trips

@[simp] theorem mk_add_mk (a b c x y z : Nat) : Tally.mk a b c + ⟨x, y, z⟩ = ⟨a + x, b + y, c + z⟩ := rfl

@[simp] theorem mk_within_mk (a b c x y z : Nat) : (Tally.mk a b c).Within ⟨x, y, z⟩ ↔ a ≤ x ∧ b ≤ y ∧ c ≤ z := Iff.rfl

theorem Within.trans {spent budget larger : Tally} (bound : spent.Within budget) (le : budget.Within larger) :
    spent.Within larger :=
  ⟨bound.1.trans le.1, bound.2.1.trans le.2.1, bound.2.2.trans le.2.2⟩

theorem Within.add {spent budget : Tally} (bound : spent.Within budget) (cost : Tally) :
    (spent + cost).Within (budget + cost) :=
  ⟨Nat.add_le_add_right bound.1 _, Nat.add_le_add_right bound.2.1 _, Nat.add_le_add_right bound.2.2 _⟩

end Tally

def Happening.cost : Happening → Tally
  | .login _ .initial .. => ⟨1, 0, 0⟩
  | .login _ .again .. => ⟨0, 1, 0⟩
  | .roundTrip _ => ⟨0, 0, 1⟩
  | .sent .. | .refused .. => ⟨0, 0, 0⟩

def Happening.request : Happening → Nat
  | .login request .. | .roundTrip request | .sent request .. | .refused request _ => request

theorem tally_own (log : List Happening) (entry : Happening) :
    tally (log ++ [entry]) entry.request = tally log entry.request + entry.cost := by
  cases entry with
  | login request kind replaced success => cases kind <;> simp [tally, Happening.request, Happening.cost]
  | _ => simp [tally, Happening.request, Happening.cost]

theorem tally_other (log : List Happening) (entry : Happening) {other : Nat} (different : entry.request ≠ other) :
    tally (log ++ [entry]) other = tally log other := by
  cases entry with
  | login request kind replaced success => cases kind <;> simp_all [tally, Happening.request]
  | _ => simp_all [tally, Happening.request]

/-- What a request can have done by the time it stands at a stage. -/
def Stage.budget : Stage → Tally
  | .entered | .loginNeeded _ => ⟨0, 0, 0⟩
  | .loggedIn | .calling (.first _) => ⟨1, 0, 0⟩
  | .attempting (.first _) _ | .waiting (.first _) .. | .refused .. => ⟨1, 0, 1⟩
  | .calling (.retry _) => ⟨1, 1, 1⟩
  | .attempting (.retry _) _ | .waiting (.retry _) .. | .returned _ => ⟨1, 1, 2⟩

theorem Stage.budget_le (stage : Stage) : stage.budget.Within ⟨1, 1, 2⟩ := by
  cases stage with
  | calling leg => cases leg <;> simp [Stage.budget]
  | attempting leg loop => cases leg <;> simp [Stage.budget]
  | waiting leg loop attached => cases leg <;> simp [Stage.budget]
  | _ => simp [Stage.budget]

section Spending

variable {errorMsgIDs : String → List String} {shared : Shared} {request : Nat} {stage : Stage} {input : Input} {move : Move}

theorem MoveCase.record_request (moved : MoveCase errorMsgIDs shared request stage input move) {entry : Happening}
    (recorded : move.record = some entry) : entry.request = request := by
  cases moved <;> cases recorded <;> rfl

theorem MoveCase.affordable (moved : MoveCase errorMsgIDs shared request stage input move) :
    (stage.budget + move.record.elim ⟨0, 0, 0⟩ Happening.cost).Within move.stage.budget := by
  cases moved with
  | superseded _ _ login pending advanced => cases stage <;> cases pending <;> simp [Stage.budget]
  | loginFailed _ _ login pending current e => cases stage <;> cases pending <;> simp [Stage.budget, Happening.cost]
  | loginSucceeded _ _ login pending current cookies held =>
    cases stage <;> cases pending <;> simp [Stage.budget, Happening.cost]
  | returned _ _ result after => exact stage.budget_le
  | tripRefused leg | tripStarted leg | attached leg | again leg =>
    cases leg <;> simp [Stage.budget, Happening.cost]
  | _ => simp [Stage.budget, Happening.cost]

end Spending

def Stage.Consistent (gen : Nat) (log : List Happening) (request : Nat) : Stage → Prop
  | .entered | .returned _ => True
  | .loginNeeded seen => seen = 0
  | .loggedIn | .calling (.retry _) | .attempting (.retry _) _ | .waiting (.retry _) .. => 0 < gen
  | .calling (.first seenToken) | .attempting (.first seenToken) _ => 0 < seenToken ∧ seenToken ≤ gen
  | .waiting (.first seenToken) loop attached =>
    0 < loop.remaining ∧ 0 < seenToken ∧ seenToken ≤ attached.gen ∧ attached.gen ≤ gen ∧
      .sent request attached.gen attached.cookies ∈ log
  | .refused seenToken sent => 0 < seenToken ∧ seenToken ≤ sent ∧ sent ≤ gen ∧ .refused request sent ∈ log

theorem Stage.Consistent.mono {gen gen' : Nat} {log log' : List Happening} {request : Nat} {stage : Stage}
    (consistent : stage.Consistent gen log request) (later : gen ≤ gen') (longer : ∀ entry ∈ log, entry ∈ log') :
    stage.Consistent gen' log' request := by
  cases stage with
  | entered => trivial
  | returned result => trivial
  | loginNeeded seen => exact consistent
  | loggedIn => exact Nat.lt_of_lt_of_le consistent later
  | refused seenToken sent =>
    obtain ⟨positive, older, bound, recorded⟩ := consistent
    exact ⟨positive, older, bound.trans later, longer _ recorded⟩
  | calling leg | attempting leg loop =>
    cases leg with
    | first seenToken => exact ⟨consistent.1, consistent.2.trans later⟩
    | retry refused => exact Nat.lt_of_lt_of_le consistent later
  | waiting leg loop attached =>
    cases leg with
    | first seenToken =>
      obtain ⟨more, positive, older, bound, recorded⟩ := consistent
      exact ⟨more, positive, older, bound.trans later, longer _ recorded⟩
    | retry refused => exact Nat.lt_of_lt_of_le consistent later

namespace Sessions

structure Sound (s : Sessions) : Prop where
  counted : s.shared.session.gen = (logins s.log).length
  cached : s.shared.session.cookies = [] ↔ s.shared.session.gen = 0
  lawful : Lawful Happening.Allowed s.log
  consistent : ∀ (index : Nat) (stage : Stage), s.requests[index]? = some stage →
    stage.Consistent s.shared.session.gen s.log index
  within : ∀ index, (tally s.log index).Within ((s.requests[index]?).elim ⟨0, 0, 0⟩ Stage.budget)

theorem Sound.start (failureThreshold openTimeout clock : Int) :
    (Sessions.start failureThreshold openTimeout clock).Sound where
  counted := rfl
  cached := ⟨fun _ => rfl, fun _ => rfl⟩
  lawful := .nil
  consistent _ _ found := by cases found
  within _ := ⟨le_refl 0, le_refl 0, le_refl 0⟩

variable {s : Sessions} {errorMsgIDs : String → List String} {index : Nat} {stage : Stage} {input : Input} {move : Move}

theorem Sound.pendingLogin_cases (sound : s.Sound) (found : s.requests[index]? = some stage) {login : PendingLogin}
    (pending : stage.pendingLogin = some login) :
    (login = ⟨.initial, 0, .loggedIn⟩ ∧ stage.budget = ⟨0, 0, 0⟩) ∨
      ∃ sent, login = ⟨.again, login.seenToken, .calling (.retry sent)⟩ ∧ stage.budget = ⟨1, 0, 1⟩ ∧
        0 < login.seenToken ∧ login.seenToken ≤ sent ∧ sent ≤ s.shared.session.gen ∧ .refused index sent ∈ s.log := by
  have consistent := sound.consistent index stage found
  cases stage with
  | loginNeeded seen =>
    cases pending
    rw [show seen = 0 from consistent]
    exact .inl ⟨rfl, rfl⟩
  | refused seenToken sent =>
    cases pending
    exact .inr ⟨sent, rfl, rfl, consistent⟩
  | _ => cases pending

theorem Sound.superseded_lt (sound : s.Sound) (found : s.requests[index]? = some stage) {login : PendingLogin}
    (pending : stage.pendingLogin = some login) (advanced : s.shared.session.gen ≠ login.seenToken) :
    login.seenToken < s.shared.session.gen := by
  rcases sound.pendingLogin_cases found pending with ⟨rfl, -⟩ | ⟨sent, -, -, -, older, bound, -⟩
  · exact Nat.pos_of_ne_zero advanced
  · omega

theorem Sound.allowed (sound : s.Sound) (found : s.requests[index]? = some stage)
    (moved : MoveCase errorMsgIDs s.shared index stage input move) :
    ∀ entry, move.record = some entry → Happening.Allowed s.log entry := by
  have consistent := sound.consistent index stage found
  have login_allowed : ∀ login success, stage.pendingLogin = some login → s.shared.session.gen = login.seenToken →
      Happening.Allowed s.log (.login index login.kind login.seenToken success) := by
    intro login success pending current
    have newest : login.seenToken = (logins s.log).length := current ▸ sound.counted
    rcases sound.pendingLogin_cases found pending with ⟨rfl, -⟩ | ⟨sent, kind, -, positive, older, bound, recorded⟩
    · exact ⟨newest, rfl⟩
    · -- The cookies that were refused are no older than the token and no newer than the session, so they are current.
      obtain rfl : sent = login.seenToken := by omega
      rw [kind]
      exact ⟨newest, positive, recorded⟩
  intro entry recorded
  cases moved with
  | loginFailed _ _ login pending current e =>
    cases recorded
    exact login_allowed login false pending current
  | loginSucceeded _ _ login pending current cookies held =>
    cases recorded
    exact login_allowed login true pending current
  | tripRefused leg input e after =>
    cases recorded
    trivial
  | tripStarted leg input loop after =>
    cases recorded
    trivial
  | attached leg loop input more =>
    cases recorded
    have positive : 0 < s.shared.session.gen := by
      cases leg with
      | first seenToken => exact Nat.lt_of_lt_of_le consistent.1 consistent.2
      | retry refused => exact consistent
    exact ⟨fun empty => absurd (sound.cached.mp empty) (Nat.ne_of_gt positive), positive, sound.counted.le⟩
  | refused seenToken loop attached response signal after =>
    cases recorded
    exact ⟨attached.cookies, consistent.2.2.2.2⟩
  | _ => cases recorded

theorem Sound.session_moved (sound : s.Sound) (moved : MoveCase errorMsgIDs s.shared index stage input move) :
    s.shared.session.gen ≤ move.shared.session.gen ∧
      move.shared.session.gen = (logins (s.log ++ move.record.toList)).length ∧
      (move.shared.session.cookies = [] ↔ move.shared.session.gen = 0) := by
  rw [logins, List.filterMap_append, List.length_append]
  rcases moved.session_cases with ⟨same, silent⟩ | ⟨kind, cookies, held, session, recorded⟩
  · rw [same, ← logins, ← logins, silent]
    exact ⟨le_refl _, sound.counted, sound.cached⟩
  · rw [session, recorded, ← logins, ← sound.counted]
    exact ⟨Nat.le_succ _, rfl, iff_of_false held (Nat.succ_ne_zero _)⟩

theorem Sound.stage_consistent (sound : s.Sound) (found : s.requests[index]? = some stage)
    (moved : MoveCase errorMsgIDs s.shared index stage input move) :
    move.stage.Consistent move.shared.session.gen (s.log ++ move.record.toList) index := by
  have consistent := sound.consistent index stage found
  have goes_on : ∀ login gen log, stage.pendingLogin = some login → login.seenToken < gen →
      login.next.Consistent gen log index := by
    intro login gen log pending later
    rcases sound.pendingLogin_cases found pending with ⟨rfl, -⟩ | ⟨sent, kind, -⟩
    · exact later
    · rw [kind]
      exact Nat.zero_lt_of_lt later
  cases moved with
  | cold input empty => exact sound.cached.mp empty
  | cached input held => exact ⟨Nat.pos_of_ne_zero fun zero => held (sound.cached.mpr zero), le_refl _⟩
  | token input => exact ⟨consistent, le_refl _⟩
  | superseded _ _ login pending advanced =>
    exact goes_on login _ _ pending (sound.superseded_lt found pending advanced)
  | loginFailed _ _ login pending current e => trivial
  | loginSucceeded _ _ login pending current cookies held => exact goes_on login _ _ pending (Nat.lt_succ_self _)
  | tripRefused leg input e after => trivial
  | tripStarted leg input loop after =>
    cases leg with
    | first seenToken => exact consistent
    | retry refused => exact consistent
  | attached leg loop input more =>
    cases leg with
    | first seenToken =>
      exact ⟨more, consistent.1, consistent.2, le_refl _, List.mem_append_right _ (List.mem_singleton.mpr rfl)⟩
    | retry refused => exact consistent
  | again leg loop next attached input =>
    cases leg with
    | first seenToken =>
      obtain ⟨-, positive, older, bound, -⟩ := consistent
      exact ⟨positive, older.trans bound⟩
    | retry refused => exact consistent
  | refused seenToken loop attached response signal after =>
    obtain ⟨-, positive, older, bound, -⟩ := consistent
    exact ⟨positive, older, bound, List.mem_append_right _ (List.mem_singleton.mpr rfl)⟩
  | returned _ _ result after => trivial

theorem Sound.tally_moved (sound : s.Sound) (found : s.requests[index]? = some stage)
    (moved : MoveCase errorMsgIDs s.shared index stage input move) :
    (tally (s.log ++ move.record.toList) index).Within move.stage.budget ∧
      ∀ other, index ≠ other → tally (s.log ++ move.record.toList) other = tally s.log other := by
  have spent := sound.within index
  rw [found, Option.elim_some] at spent
  have paid := (spent.add (move.record.elim ⟨0, 0, 0⟩ Happening.cost)).trans moved.affordable
  cases recorded : move.record with
  | none =>
    rw [recorded] at paid
    rw [Option.toList_none, List.append_nil]
    exact ⟨paid, fun other different => rfl⟩
  | some entry =>
    have own := moved.record_request recorded
    rw [recorded] at paid
    constructor
    · rw [← own] at paid ⊢
      rw [Option.toList_some, tally_own]
      exact paid
    · intro other different
      exact tally_other s.log entry (own ▸ different)

theorem Sound.settle (sound : s.Sound) (found : s.requests[index]? = some stage)
    (moved : MoveCase errorMsgIDs s.shared index stage input move) : (s.settle index move).Sound := by
  obtain ⟨later, counted, cached⟩ := sound.session_moved moved
  obtain ⟨own, others⟩ := sound.tally_moved found moved
  have bound := (List.getElem?_eq_some_iff.mp found).1
  refine ⟨counted, cached, sound.lawful.add (sound.allowed found moved), ?_, ?_⟩
  · intro position there found'
    simp only [Sessions.settle, List.getElem?_set] at found'
    split at found'
    · next same =>
      subst same
      cases found'
      exact sound.stage_consistent found moved
    · exact (sound.consistent position there found').mono later fun entry => List.mem_append_left _
  · intro position
    simp only [Sessions.settle, List.getElem?_set]
    split
    · next same =>
      subst same
      exact own
    · next different =>
      rw [others position different]
      exact sound.within position

theorem Sound.next {client : Client} (sound : s.Sound) {event : SessionEvent} (possible : s.valid client event) :
    (s.next client errorMsgIDs event).Sound := by
  cases event with
  | tick later => exact ⟨sound.counted, sound.cached, sound.lawful, sound.consistent, sound.within⟩
  | request =>
    refine ⟨sound.counted, sound.cached, sound.lawful, ?_, ?_⟩
    · intro index stage found
      simp only [Sessions.next, List.getElem?_append] at found
      split at found
      · exact sound.consistent index stage found
      · cases List.mem_singleton.mp (List.mem_of_getElem? found)
        trivial
    · intro index
      simp only [Sessions.next, List.getElem?_append]
      split
      · exact sound.within index
      · next outside =>
        have spent := sound.within index
        rw [List.getElem?_eq_none (Nat.le_of_not_lt outside)] at spent
        cases new : [Stage.entered][index - s.requests.length]? with
        | none => exact spent
        | some stage =>
          cases List.mem_singleton.mp (List.mem_of_getElem? new)
          exact spent
  | proceed index input =>
    obtain ⟨stage, found, awaited⟩ := possible
    simp only [Sessions.next, found]
    exact sound.settle found (move_cases errorMsgIDs s.clock s.shared index awaited)

theorem Sound.tally_le (sound : s.Sound) (request : Nat) : (tally s.log request).Within ⟨1, 1, 2⟩ := by
  have spent := sound.within request
  cases found : s.requests[request]? with
  | none =>
    rw [found] at spent
    exact spent.trans ⟨Nat.zero_le _, Nat.zero_le _, Nat.zero_le _⟩
  | some stage =>
    rw [found] at spent
    exact spent.trans stage.budget_le

theorem Sound.of_reach {client : Client} {allowed : Sessions → SessionEvent → Prop} {failureThreshold openTimeout clock : Int}
    (run : (sessions client errorMsgIDs).Reach allowed (Sessions.start failureThreshold openTimeout clock) s) : s.Sound :=
  run.invariant Sound (Sound.start _ _ _) fun _ _ sound possible _ => sound.next possible

end Sessions

section Counting

variable {log : List Happening}

theorem logins_eq_range (lawful : Lawful Happening.Allowed log) : logins log = List.range (logins log).length := by
  induction lawful with
  | nil => rfl
  | @snoc journal entry earlier allowed ih =>
    have appended : logins (journal ++ [entry]) = logins journal ++ logins [entry] := List.filterMap_append
    rw [appended, List.length_append]
    cases ended : entry.loginOver with
    | none =>
      have silent : logins [entry] = [] := by rw [logins, List.filterMap_cons, ended, List.filterMap_nil]
      rw [silent, List.append_nil, List.length_nil, Nat.add_zero]
      exact ih
    | some replaced =>
      have single : logins [entry] = [replaced] := by rw [logins, List.filterMap_cons, ended, List.filterMap_nil]
      have newest : replaced = (logins journal).length := by
        rcases entry with ⟨request, _ | _, old, _ | _⟩ | _ | _ | _ <;> cases ended <;> exact allowed.1
      rw [single, List.length_singleton, List.range_succ, ← ih, newest]

/-- A successful login over a generation that had cookies was made for a request whose cookies of that generation were
refused. -/
theorem refused_of_login (lawful : Lawful Happening.Allowed log) {before after : List Happening} {request replaced : Nat}
    {kind : LoginKind} {success : Bool} (split : log = before ++ .login request kind replaced success :: after)
    (positive : 0 < replaced) : .refused request replaced ∈ before := by
  have allowed := lawful.allowed_at split
  cases kind with
  | initial => exact absurd allowed.2 (Nat.ne_of_gt positive)
  | again => exact allowed.2.2

theorem sent_of_refused (lawful : Lawful Happening.Allowed log) {before after : List Happening} (split : log = before ++ after)
    {request gen : Nat} (member : .refused request gen ∈ before) : ∃ cookies, .sent request gen cookies ∈ before := by
  obtain ⟨earlier, between, rfl⟩ := List.append_of_mem member
  rw [List.append_assoc] at split
  obtain ⟨cookies, sent⟩ := lawful.allowed_at split
  exact ⟨cookies, List.mem_append_left _ sent⟩

theorem relogins_le_refusals (lawful : Lawful Happening.Allowed log) :
    ((logins log).filter (0 < ·)).length ≤ (refusals log).toFinset.card := by
  have distinct : ((logins log).filter (0 < ·)).Nodup := by
    rw [logins_eq_range lawful]
    exact List.nodup_range.filter _
  rw [← List.toFinset_card_of_nodup distinct]
  apply Finset.card_le_card
  intro replaced member
  obtain ⟨replacedIn, positive⟩ := List.mem_filter.mp (List.mem_toFinset.mp member)
  obtain ⟨entry, entryIn, ended⟩ := List.mem_filterMap.mp replacedIn
  rcases entry with ⟨request, kind, old, _ | _⟩ | _ | _ | _ <;> cases ended
  obtain ⟨before, after, rfl⟩ := List.append_of_mem entryIn
  have refusal := refused_of_login lawful rfl (of_decide_eq_true positive)
  exact List.mem_toFinset.mpr (List.mem_filterMap.mpr ⟨_, List.mem_append_left _ refusal, rfl⟩)

end Counting

section Results

variable {client : Client} {errorMsgIDs : String → List String} {failureThreshold openTimeout clock : Int} {s : Sessions}

/-- Whatever the requests do, the generation counts the successful logins, nothing is sent without a cookie, every
re-login answers a refusal of the very cookies it replaces, and a request logs in at most twice. -/
theorem login_single_flight
    (run : (sessions client errorMsgIDs).Reach (fun _ _ => True) (Sessions.start failureThreshold openTimeout clock) s) :
    s.shared.session.gen = (logins s.log).length ∧
    (∀ before request gen cookies after, s.log = before ++ .sent request gen cookies :: after →
      cookies ≠ [] ∧ 0 < gen ∧ gen ≤ (logins before).length) ∧
    (∀ before request kind replaced after, s.log = before ++ .login request kind replaced true :: after → 0 < replaced →
      .refused request replaced ∈ before ∧ ∃ cookies, .sent request replaced cookies ∈ before) ∧
    ((logins s.log).filter (0 < ·)).length ≤ (refusals s.log).toFinset.card ∧
    ∀ request, (tally s.log request).initial ≤ 1 ∧ (tally s.log request).again ≤ 1 ∧ (tally s.log request).trips ≤ 2 := by
  have sound := Sessions.Sound.of_reach run
  refine ⟨sound.counted, ?_, ?_, relogins_le_refusals sound.lawful, ?_⟩
  · intro before request gen cookies after split
    exact sound.lawful.allowed_at split
  · intro before request kind replaced after split positive
    have refusal := refused_of_login sound.lawful split positive
    exact ⟨refusal, sent_of_refused sound.lawful split refusal⟩
  · exact sound.tally_le

end Results

section Run

def plainClient : Client := ⟨⟨1, 0, 0, Nat.one_pos⟩, some ⟨"admin", "secret"⟩, false⟩

def classified (_ : String) : List String := [ltpaClassifierReauth]

def refusal : SendResult := .answered ⟨401, .ok ""⟩

def loginAnswer (cookie : String) : LoginResult := .answered 204 [cookie]

/-- One request logs in and is about to be sent; another one is sent with the same cookie, refused, and logs in again. -/
def supersedingRun : List SessionEvent :=
  [.request, .proceed 0 .go, .proceed 0 (.login (loginAnswer "one")), .proceed 0 .go,
    .request, .proceed 1 .go, .proceed 1 .go, .proceed 1 (.paused none), .proceed 1 (.answer refusal),
    .proceed 1 (.login (loginAnswer "two"))]

theorem supersedingRun_follows :
    (sessions plainClient classified).Follows (fun _ _ => True) (Sessions.start 5 5 0) supersedingRun :=
  ⟨trivial, trivial, ⟨_, rfl, trivial⟩, trivial, ⟨_, rfl, trivial⟩, trivial, ⟨_, rfl, trivial⟩, trivial,
    trivial, trivial, ⟨_, rfl, trivial⟩, trivial, ⟨_, rfl, trivial⟩, trivial, ⟨_, rfl, nofun⟩, trivial,
    ⟨_, rfl, trivial⟩, trivial, ⟨_, rfl, trivial⟩, trivial, trivial⟩

theorem login_single_flight_superseding :
    ∃ s : Sessions, (sessions plainClient classified).Reach (fun _ _ => True) (Sessions.start 5 5 0) s ∧
      logins s.log = [0, 1] ∧ refusals s.log = [1] ∧ s.shared.session.gen = (logins s.log).length := by
  have run := System.Reach.start.follow supersedingRun supersedingRun_follows
  exact ⟨_, run, rfl, rfl, (login_single_flight run).1⟩

end Run

end MKurator.MqRest
