import MKurator.MqRest.Logins

/-! Which cookies the retry of a refused request carries. The request reads the generation before it is sent, and its
cookies are taken later, at each attempt; a login in between makes the two differ. -/

namespace MKurator.MqRest
open MKurator.MqAdmin MKurator.Lib

section Targets

variable {client : Client} {errorMsgIDs : String → List String}

/-- A request is refused for cookies of the generation that it had read, or of one that is replaced by now. -/
def Sessions.TargetsRefused (errorMsgIDs : String → List String) (s : Sessions) (event : SessionEvent) : Prop :=
  ∀ index response seenToken loop attached, event = .proceed index (.answer (.answered response)) →
    s.requests[index]? = some (.waiting (.first seenToken) loop attached) →
    shouldReauthenticate errorMsgIDs response = true →
    attached.gen = seenToken ∨ attached.gen < s.shared.session.gen

def Stage.Targeted (gen : Nat) : Stage → Prop
  | .refused seenToken sent => seenToken = sent ∨ sent < gen
  | .calling (.retry old) | .attempting (.retry old) _ => old < gen
  | .waiting (.retry old) _ attached => old < attached.gen ∧ attached.gen ≤ gen
  | _ => True

theorem Stage.Targeted.mono {gen gen' : Nat} {stage : Stage} (targeted : stage.Targeted gen) (later : gen ≤ gen') :
    stage.Targeted gen' := by
  cases stage with
  | refused seenToken sent => exact targeted.imp_right fun older => Nat.lt_of_lt_of_le older later
  | calling leg | attempting leg =>
    cases leg with
    | first seenToken => trivial
    | retry refused => exact Nat.lt_of_lt_of_le targeted later
  | waiting leg loop attached =>
    cases leg with
    | first seenToken => trivial
    | retry refused => exact ⟨targeted.1, targeted.2.trans later⟩
  | _ => trivial

namespace Sessions

variable {s : Sessions} {index : Nat} {stage : Stage} {input : Input} {move : Move}

structure Targeted (s : Sessions) : Prop extends Sound s where
  targeted : ∀ (index : Nat) (stage : Stage), s.requests[index]? = some stage → stage.Targeted s.shared.session.gen

theorem Targeted.stage_targeted (kept : s.Targeted) (found : s.requests[index]? = some stage)
    (allowed : s.TargetsRefused errorMsgIDs (.proceed index input))
    (moved : MoveCase errorMsgIDs s.shared index stage input move) : move.stage.Targeted move.shared.session.gen := by
  have targeted := kept.targeted index stage found
  have goes_on : ∀ login gen, stage.pendingLogin = some login → s.shared.session.gen ≤ gen → login.seenToken < gen →
      login.next.Targeted gen := by
    intro login gen pending later newer
    cases stage with
    | loginNeeded seen =>
      cases pending
      trivial
    | refused seenToken sent =>
      cases pending
      change sent < gen
      rcases targeted with rfl | older
      · exact newer
      · exact Nat.lt_of_lt_of_le older later
    | _ => cases pending
  cases moved with
  | superseded _ _ login pending advanced =>
    exact goes_on login _ pending (le_refl _) (kept.superseded_lt found pending advanced)
  | loginSucceeded _ _ login pending current cookies held =>
    exact goes_on login _ pending (current ▸ Nat.le_succ _) (Nat.lt_succ_self _)
  | tripStarted leg input loop after =>
    cases leg with
    | first seenToken => trivial
    | retry refused => exact targeted
  | attached leg loop input more =>
    cases leg with
    | first seenToken => trivial
    | retry refused => exact ⟨targeted, le_refl _⟩
  | again leg loop next attached input =>
    cases leg with
    | first seenToken => trivial
    | retry refused => exact Nat.lt_of_lt_of_le targeted.1 targeted.2
  | refused seenToken loop attached response signal after =>
    exact (allowed index response seenToken loop attached rfl found signal).imp_left Eq.symm
  | _ => trivial

theorem Targeted.next (kept : s.Targeted) {event : SessionEvent} (possible : s.valid client event)
    (allowed : s.TargetsRefused errorMsgIDs event) : (s.next client errorMsgIDs event).Targeted := by
  refine ⟨kept.toSound.next possible, ?_⟩
  cases event with
  | tick later => exact kept.targeted
  | request =>
    intro index stage found
    simp only [Sessions.next, List.getElem?_append] at found
    split at found
    · exact kept.targeted index stage found
    · cases List.mem_singleton.mp (List.mem_of_getElem? found)
      trivial
  | proceed index input =>
    obtain ⟨stage, there, awaited⟩ := possible
    have moved := move_cases errorMsgIDs s.clock s.shared index awaited
    simp only [Sessions.next, there]
    intro position stage' found
    simp only [Sessions.settle, List.getElem?_set] at found
    split at found
    · next same =>
      subst same
      split at found
      · cases found
        exact kept.stage_targeted there allowed moved
      · cases found
    · exact (kept.targeted position stage' found).mono (kept.session_moved moved).1

theorem next_proceed (found : s.requests[index]? = some stage) (input : Input) :
    s.next client errorMsgIDs (.proceed index input) =
      s.settle index (stage.move client errorMsgIDs s.clock s.shared index input) := by
  rw [Sessions.next, found]

theorem settle_found (found : s.requests[index]? = some stage) (move : Move) :
    (s.settle index move).requests[index]? = some move.stage := by
  rw [settle, List.getElem?_set_self (List.getElem?_eq_some_iff.mp found).1]

theorem exists_step {first : Sessions} (run : (sessions client errorMsgIDs).Reach (fun _ _ => True) first s)
    (found : s.requests[index]? = some stage) (input : Input) (awaited : stage.Awaits client input)
    (moved : stage.move client errorMsgIDs s.clock s.shared index input = move) :
    ∃ later : Sessions, (sessions client errorMsgIDs).Reach (fun _ _ => True) first later ∧
      later.requests[index]? = some move.stage ∧ later.shared = move.shared := by
  refine ⟨s.next client errorMsgIDs (.proceed index input), run.step (.proceed index input) ⟨stage, found, awaited⟩ trivial, ?_⟩
  rw [next_proceed found, moved]
  exact ⟨settle_found found move, rfl⟩

theorem move_refused (clock : Int) (shared : Shared) (request seenToken : Nat) {loop : Attempts} (attached : LTPASession)
    {response : HttpResponse} (more : 0 < loop.remaining) (signal : shouldReauthenticate errorMsgIDs response = true) :
    (Stage.waiting (.first seenToken) loop attached).move client errorMsgIDs clock shared request
        (.answer (.answered response)) =
      ⟨.refused seenToken attached.gen, { shared with breaker := shared.breaker.recordSuccess },
        some (.refused request attached.gen)⟩ := by
  have unauthorized := ((shouldReauthenticate_iff _ _).mp signal).1
  have ended : loop.advance client (.sent (.answered response)) = .returned (some .success) (.ok response) := by
    rcases loop with ⟨_ | remaining, lastNetErr⟩
    · exact absurd more (Nat.lt_irrefl 0)
    · change settled client remaining lastNetErr (.answered response) = _
      rw [settled, if_neg (by rw [unauthorized]; decide)]
  rw [Stage.move, ended, Shared.turnEnded]
  simp only [signal, if_true]
  rfl

/-- A request that is refused for the current cookies, but had read an older generation, goes on to send them again. -/
theorem Sound.retry_same_cookies (sound : s.Sound) {event : SessionEvent} (missed : ¬s.TargetsRefused errorMsgIDs event) :
    ∃ (later : Sessions) (index refused : Nat) (loop : Attempts) (attached : LTPASession),
      (sessions client errorMsgIDs).Reach (fun _ _ => True) (s.next client errorMsgIDs event) later ∧
      later.requests[index]? = some (.waiting (.retry refused) loop attached) ∧ attached.gen = refused := by
  simp only [TargetsRefused, not_forall, not_or, Nat.not_lt] at missed
  obtain ⟨index, response, seenToken, loop, attached, rfl, found, signal, unread, current⟩ := missed
  obtain ⟨more, -, -, bound, -⟩ := sound.consistent index _ found
  have newest : s.shared.session.gen = attached.gen := Nat.le_antisymm current bound
  rw [next_proceed found, move_refused _ _ _ _ _ more signal]
  have refused := settle_found found
    ⟨.refused seenToken attached.gen, { s.shared with breaker := s.shared.breaker.recordSuccess },
      some (.refused index attached.gen)⟩
  -- The session is past the token, so the login is skipped.
  obtain ⟨skipped, run, calling, same⟩ := exists_step .start refused (.login (.aborted "")) trivial
    (if_pos (newest ▸ unread))
  -- The answer has just closed the breaker.
  have admits : (Stage.calling (.retry attached.gen)).move client errorMsgIDs skipped.clock skipped.shared index .go =
      ⟨.attempting (.retry attached.gen) ⟨client.retry.maxAttempts, none⟩, skipped.shared, some (.roundTrip index)⟩ := by
    rw [same]
    rfl
  obtain ⟨started, run, attempting, same'⟩ := exists_step run calling .go trivial admits
  obtain ⟨resent, run, waiting, -⟩ := exists_step run attempting (.paused none) nofun
    (if_pos ⟨client.retry.maxAttempts_pos, rfl⟩)
  refine ⟨resent, index, attached.gen, _, _, run, waiting, ?_⟩
  rw [same', same]
  exact newest

end Sessions

end Targets

section Retry

variable (client : Client) (errorMsgIDs : String → List String) (failureThreshold openTimeout clock : Int)

/-- As long as every refusal is for cookies of the generation that its request had read, or of one replaced by then,
every retry carries newer cookies than were refused; after any other refusal the retry can carry the same ones. -/
theorem retry_with_newer_cookies :
    (∀ s : Sessions, (sessions client errorMsgIDs).Reach (Sessions.TargetsRefused errorMsgIDs)
        (Sessions.start failureThreshold openTimeout clock) s →
      ∀ (index refused : Nat) (loop : Attempts) (attached : LTPASession),
        s.requests[index]? = some (.waiting (.retry refused) loop attached) → refused < attached.gen) ∧
    ∀ (s : Sessions) (event : SessionEvent), (sessions client errorMsgIDs).Reach (fun _ _ => True)
        (Sessions.start failureThreshold openTimeout clock) s →
      ¬s.TargetsRefused errorMsgIDs event →
      ∃ (later : Sessions) (index refused : Nat) (loop : Attempts) (attached : LTPASession),
        (sessions client errorMsgIDs).Reach (fun _ _ => True) (s.next client errorMsgIDs event) later ∧
        later.requests[index]? = some (.waiting (.retry refused) loop attached) ∧ attached.gen = refused := by
  constructor
  · intro s run index refused loop attached found
    have kept : s.Targeted := by
      apply run.invariant Sessions.Targeted
      · exact ⟨Sessions.Sound.start failureThreshold openTimeout clock, fun _ _ absent => by cases absent⟩
      · exact fun state event earlier possible allowed => earlier.next possible allowed
    exact (kept.targeted index _ found).1
  · intro s event run missed
    exact (Sessions.Sound.of_reach run).retry_same_cookies missed

end Retry

section Run

def staleSend : List SessionEvent := [.proceed 0 .go, .proceed 0 (.paused none)]

def staleRetry : List SessionEvent :=
  [.proceed 0 (.answer refusal), .proceed 0 (.login (loginAnswer "three")), .proceed 0 .go, .proceed 0 (.paused none)]

theorem reach_staleSend : (sessions plainClient classified).Reach (fun _ _ => True) (Sessions.start 5 5 0)
    (staleSend.foldl (sessions plainClient classified).next
      (supersedingRun.foldl (sessions plainClient classified).next (Sessions.start 5 5 0))) :=
  (System.Reach.start.follow supersedingRun supersedingRun_follows).follow staleSend
    ⟨⟨_, rfl, trivial⟩, trivial, ⟨_, rfl, nofun⟩, trivial, trivial⟩

theorem stale_token_retry :
    ∃ s : Sessions, (sessions plainClient classified).Reach (fun _ _ => True) (Sessions.start 5 5 0) s ∧
      s.requests[0]? = some (.waiting (.retry 2) ⟨1, none⟩ ⟨["two"], 2⟩) := by
  have retried := reach_staleSend.follow staleRetry
    ⟨⟨_, rfl, trivial⟩, trivial, ⟨_, rfl, trivial⟩, trivial, ⟨_, rfl, trivial⟩, trivial, ⟨_, rfl, nofun⟩, trivial, trivial⟩
  exact ⟨_, retried, rfl⟩

def refusedRun : List SessionEvent :=
  [.request, .proceed 0 .go, .proceed 0 (.login (loginAnswer "one")), .proceed 0 .go, .proceed 0 .go,
    .proceed 0 (.paused none), .proceed 0 (.answer refusal), .proceed 0 (.login (loginAnswer "two")), .proceed 0 .go,
    .proceed 0 (.paused none)]

theorem refusedRun_follows : (sessions plainClient classified).Follows (Sessions.TargetsRefused classified)
    (Sessions.start 5 5 0) refusedRun := by
  have silent : ∀ (s : Sessions) event, (∀ index response, event ≠ .proceed index (.answer (.answered response))) →
      s.TargetsRefused classified event := fun s event other index response _ _ _ same => absurd same (other index response)
  refine ⟨trivial, silent _ _ nofun, ⟨_, rfl, trivial⟩, silent _ _ nofun, ⟨_, rfl, trivial⟩, silent _ _ nofun,
    ⟨_, rfl, trivial⟩, silent _ _ nofun, ⟨_, rfl, trivial⟩, silent _ _ nofun, ⟨_, rfl, nofun⟩, silent _ _ nofun,
    ⟨_, rfl, trivial⟩, ?_, ⟨_, rfl, trivial⟩, silent _ _ nofun, ⟨_, rfl, trivial⟩, silent _ _ nofun,
    ⟨_, rfl, nofun⟩, silent _ _ nofun, trivial⟩
  intro index response seenToken loop attached same found signal
  cases same
  cases found
  exact .inl rfl

theorem retry_with_newer_cookies_refused :
    (∃ s : Sessions,
      (sessions plainClient classified).Reach (Sessions.TargetsRefused classified) (Sessions.start 5 5 0) s ∧
      s.requests[0]? = some (.waiting (.retry 1) ⟨1, none⟩ ⟨["two"], 2⟩) ∧ 1 < 2) ∧
    ∃ (later : Sessions) (index refused : Nat) (loop : Attempts) (attached : LTPASession),
      later.requests[index]? = some (.waiting (.retry refused) loop attached) ∧ attached.gen = refused := by
  constructor
  · have run := System.Reach.start.follow refusedRun refusedRun_follows
    exact ⟨_, run, rfl, (retry_with_newer_cookies plainClient classified 5 5 0).1 _ run 0 1 ⟨1, none⟩ ⟨["two"], 2⟩ rfl⟩
  · obtain ⟨later, index, refused, loop, attached, -, found, same⟩ :=
      (retry_with_newer_cookies plainClient classified 5 5 0).2 _ (.proceed 0 (.answer refusal)) reach_staleSend
        fun targets => (targets 0 _ 1 ⟨1, none⟩ ⟨["two"], 2⟩ rfl rfl rfl).elim (fun same => by cases same)
          (Nat.lt_irrefl 2)
    exact ⟨later, index, refused, loop, attached, found, same⟩

end Run

end MKurator.MqRest
