import MKurator.Lib.Processes
import MKurator.Lib.System
import MKurator.MqRest.Probes

/-! Calls that share one client's cache of display probes: any number of GetQueue and ResolveQueueDriftCheckKeys, in any
interleaving. -/

namespace MKurator.MqRest
open MKurator.Api MKurator.MqAdmin MKurator.Lib MKurator.Lib.Processes MKurator.Lib.Strings

/-- Where a call stands in the loop over the candidates, with those left and the keys so far. The lock is held for one look
and for one store, never while the probe is on its way. -/
inductive ProbeStage where
  | looking (candidates keys : List String)
  | probing (attr : String) (candidates keys : List String)
  | storing (attr : String) (displayable : Bool) (candidates keys : List String)

def addDisplayable (keys : List String) (attr : String) (displayable : Bool) : List String :=
  if displayable then keys ++ [attr] else keys

namespace ProbeStage

def start (type : QueueType) : ProbeStage :=
  if normalizeQueueType type ≠ .localQueue then .looking [] (queueDisplayParameters type)
  else .looking queueLocalDefineOnlyCandidates queueLocalDisplayParameters

def look (cache : AList fun _ : String => Bool) : ProbeStage → ProbeStage
  | .looking (attr :: candidates) keys => match cache.lookup attr with
    | some displayable => .looking candidates (addDisplayable keys attr displayable)
    | none => .probing attr candidates keys
  | stage => stage

def pending : ProbeStage → List String
  | .looking candidates _ => candidates
  | .probing attr candidates _ | .storing attr _ candidates _ => attr :: candidates

def keys : ProbeStage → List String
  | .looking _ keys | .probing _ _ keys | .storing _ _ _ keys => keys

section Sequential

open Fallible

variable [UnicodeTables] {σ : Type} (net : Network σ) (client : Client)

def store (attr : String) (displayable : Bool) (candidates keys : List String) :
    Fallible (ProbeWire σ) MqError (List String) := do
  Fallible.step fun s => ((), { s with displayProbeCache := s.displayProbeCache.insert attr displayable })
  resolveCandidates net client candidates (addDisplayable keys attr displayable)

/-- What is left of a call that runs alone from a stage on. -/
def resume : ProbeStage → Fallible (ProbeWire σ) MqError (List String)
  | .looking candidates keys => resolveCandidates net client candidates keys
  | .probing attr candidates keys => do
    let displayable ←
      (ProbeWire.onWire (probeQueueLocalAttributeDisplayable net client defaultQueueLocalDisplayProbeObject attr)).mapError
        (.wrapped ("probe qlocal display " ++ quote attr))
    store net client attr displayable candidates keys
  | .storing attr displayable candidates keys => store net client attr displayable candidates keys

theorem resume_look (attr : String) (candidates keys : List String) (s : ProbeWire σ) :
    resume net client (.looking (attr :: candidates) keys) s =
      resume net client ((ProbeStage.looking (attr :: candidates) keys).look s.displayProbeCache) s := by
  rw [look, resume, resolveCandidates, bind_apply, mapError, probeQueueLocalDisplayableCached]
  simp only [bind_apply]
  have looked : (Fallible.step fun s : ProbeWire σ => (s.displayProbeCache.lookup attr, s) :
      Fallible (ProbeWire σ) MqError (Option Bool)) s = (.ok (s.displayProbeCache.lookup attr), s) := rfl
  simp only [looked]
  cases s.displayProbeCache.lookup attr with
  | some displayable => rfl
  | none =>
    simp only [resume, bind_apply, mapError]
    rcases ProbeWire.onWire (probeQueueLocalAttributeDisplayable net client defaultQueueLocalDisplayProbeObject attr) s
      with ⟨e | displayable, later⟩
    · rfl
    · rfl

theorem resume_start (type : QueueType) :
    resume net client (start type) = resolveQueueDriftCheckKeys net client type := by
  rw [start, resolveQueueDriftCheckKeys]
  split
  · rfl
  · rfl

theorem resume_start_getQueue (type : QueueType) :
    resume net client (start type) = Client.queueDisplayParametersForGet net client type :=
  resume_start net client type

theorem resolveCandidates_cached {truth : String → Bool} {candidates : List String} {s : ProbeWire σ}
    (cached : ∀ attr ∈ candidates, s.displayProbeCache.lookup attr = some (truth attr)) (keys : List String) :
    resolveCandidates net client candidates keys s = (.ok (keys ++ candidates.filter truth), s) := by
  induction candidates generalizing keys with
  | nil =>
    rw [List.filter_nil, List.append_nil]
    rfl
  | cons attr rest ih =>
    have later := ih fun other member => cached other (List.mem_cons_of_mem _ member)
    have stepped := resume_look net client attr rest keys s
    rw [look, cached attr List.mem_cons_self] at stepped
    rw [resume, resume, addDisplayable, later] at stepped
    rw [stepped, List.filter_cons]
    cases truth attr with
    | true => rw [if_pos rfl, if_pos rfl, List.append_assoc, List.singleton_append]
    | false => rw [if_neg Bool.false_ne_true, if_neg Bool.false_ne_true]

end Sequential

end ProbeStage

inductive CacheUser where
  | getQueue
  | resolveQueueDriftCheckKeys
  deriving DecidableEq, Repr

/-- The parameter list that a GetQueue of a type had asked for when it succeeded. -/
structure GetSuccess where
  type : QueueType
  parameters : List String

/-- A call in progress, with the probes it has sent and the successes of GetQueue before it began. -/
structure CacheCall where
  user : CacheUser
  type : QueueType
  stage : ProbeStage
  probes : Nat
  earlier : List GetSuccess

structure CacheEnd where
  call : CacheCall
  result : Option (List String)

structure ProbeTraffic where
  displayProbeCache : AList fun _ : String => Bool
  calls : List CacheCall
  displayed : List GetSuccess
  ended : List CacheEnd

/-- The probe of a call ends with an answer or an error, and the DISPLAY of a GetQueue is a success or not. -/
inductive ProbeEvent where
  | call (user : CacheUser) (type : QueueType)
  | look (index : Nat)
  | answer (index : Nat) (reply : Option Bool)
  | store (index : Nat)
  | finish (index : Nat) (success : Bool)

namespace ProbeTraffic

def start : ProbeTraffic := ⟨∅, [], [], []⟩

def enter (s : ProbeTraffic) (user : CacheUser) (type : QueueType) : ProbeTraffic :=
  { s with calls := s.calls ++ [⟨user, type, .start type, 0, s.displayed⟩] }

def move (s : ProbeTraffic) (index : Nat) (call : CacheCall) (stage : ProbeStage) : ProbeTraffic :=
  { s with calls := s.calls.set index { call with stage } }

def leave (s : ProbeTraffic) (index : Nat) (call : CacheCall) (result : Option (List String)) : ProbeTraffic :=
  { s with calls := s.calls.eraseIdx index, ended := ⟨call, result⟩ :: s.ended }

def look (s : ProbeTraffic) (index : Nat) (call : CacheCall) : ProbeTraffic :=
  match call.stage.look s.displayProbeCache with
  | .probing attr candidates keys =>
    s.move index { call with probes := call.probes + 1 } (.probing attr candidates keys)
  | stage => s.move index call stage

/-- Only a GetQueue has something left to do after the loop, its DISPLAY. -/
def finish (s : ProbeTraffic) (index : Nat) (call : CacheCall) (keys : List String) (success : Bool) : ProbeTraffic :=
  match call.user with
  | .resolveQueueDriftCheckKeys => s.leave index call (some keys)
  | .getQueue =>
    if success then { s.leave index call (some keys) with displayed := ⟨call.type, keys⟩ :: s.displayed }
    else s.leave index call none

def next (s : ProbeTraffic) : ProbeEvent → ProbeTraffic
  | .call user type => s.enter user type
  | .look index => match s.calls[index]? with
    | some call => s.look index call
    | none => s
  | .answer index reply => match s.calls[index]? with
    | some call => match call.stage, reply with
      | .probing attr candidates keys, some displayable => s.move index call (.storing attr displayable candidates keys)
      | .probing .., none => s.leave index call none
      | _, _ => s
    | none => s
  | .store index => match s.calls[index]? with
    | some call => match call.stage with
      | .storing attr displayable candidates keys =>
        { s.move index call (.looking candidates (addDisplayable keys attr displayable)) with
          displayProbeCache := s.displayProbeCache.insert attr displayable }
      | _ => s
    | none => s
  | .finish index success => match s.calls[index]? with
    | some call => match call.stage with
      | .looking [] keys => s.finish index call keys success
      | _ => s
    | none => s

def valid (s : ProbeTraffic) : ProbeEvent → Prop
  | .call .. => True
  | .look index => ∃ call attr candidates keys, s.calls[index]? = some call ∧ call.stage = .looking (attr :: candidates) keys
  | .answer index _ => ∃ call attr candidates keys, s.calls[index]? = some call ∧ call.stage = .probing attr candidates keys
  | .store index => ∃ call attr displayable candidates keys,
      s.calls[index]? = some call ∧ call.stage = .storing attr displayable candidates keys
  | .finish index _ => ∃ call keys, s.calls[index]? = some call ∧ call.stage = .looking [] keys

/-- The queue manager answers the probe of an attribute the same way whenever it answers it. -/
def Consistent (truth : String → Bool) (s : ProbeTraffic) : ProbeEvent → Prop
  | .answer index (some displayable) => ∀ call attr candidates keys,
      s.calls[index]? = some call → call.stage = .probing attr candidates keys → displayable = truth attr
  | _ => True

end ProbeTraffic

def probeTraffic : System ProbeTraffic ProbeEvent := ⟨ProbeTraffic.valid, ProbeTraffic.next⟩

namespace ProbeTraffic

variable {s : ProbeTraffic}

inductive StepCase (s : ProbeTraffic) : ProbeEvent → ProbeTraffic → Prop
  | call (user : CacheUser) (type : QueueType) : StepCase s (.call user type) (s.enter user type)
  | hit (index : Nat) (call : CacheCall) (attr : String) (candidates keys : List String) (displayable : Bool)
      (found : s.calls[index]? = some call) (stage : call.stage = .looking (attr :: candidates) keys)
      (known : s.displayProbeCache.lookup attr = some displayable) :
      StepCase s (.look index) (s.move index call (.looking candidates (addDisplayable keys attr displayable)))
  | miss (index : Nat) (call : CacheCall) (attr : String) (candidates keys : List String)
      (found : s.calls[index]? = some call) (stage : call.stage = .looking (attr :: candidates) keys)
      (unknown : s.displayProbeCache.lookup attr = none) :
      StepCase s (.look index)
        (s.move index { call with probes := call.probes + 1 } (.probing attr candidates keys))
  | answered (index : Nat) (call : CacheCall) (attr : String) (candidates keys : List String) (displayable : Bool)
      (found : s.calls[index]? = some call) (stage : call.stage = .probing attr candidates keys) :
      StepCase s (.answer index (some displayable)) (s.move index call (.storing attr displayable candidates keys))
  | failed (index : Nat) (call : CacheCall) (attr : String) (candidates keys : List String)
      (found : s.calls[index]? = some call) (stage : call.stage = .probing attr candidates keys) :
      StepCase s (.answer index none) (s.leave index call none)
  | store (index : Nat) (call : CacheCall) (attr : String) (displayable : Bool) (candidates keys : List String)
      (found : s.calls[index]? = some call) (stage : call.stage = .storing attr displayable candidates keys) :
      StepCase s (.store index)
        { s.move index call (.looking candidates (addDisplayable keys attr displayable)) with
          displayProbeCache := s.displayProbeCache.insert attr displayable }
  | resolved (index : Nat) (call : CacheCall) (keys : List String) (success : Bool)
      (found : s.calls[index]? = some call) (stage : call.stage = .looking [] keys)
      (user : call.user = .resolveQueueDriftCheckKeys) :
      StepCase s (.finish index success) (s.leave index call (some keys))
  | displayed (index : Nat) (call : CacheCall) (keys : List String)
      (found : s.calls[index]? = some call) (stage : call.stage = .looking [] keys) (user : call.user = .getQueue) :
      StepCase s (.finish index true)
        { s.leave index call (some keys) with displayed := ⟨call.type, keys⟩ :: s.displayed }
  | undisplayed (index : Nat) (call : CacheCall) (keys : List String)
      (found : s.calls[index]? = some call) (stage : call.stage = .looking [] keys) (user : call.user = .getQueue) :
      StepCase s (.finish index false) (s.leave index call none)

theorem step_cases {event : ProbeEvent} (possible : s.valid event) : StepCase s event (s.next event) := by
  cases event with
  | call user type => exact .call user type
  | look index =>
    obtain ⟨call, attr, candidates, keys, found, stage⟩ := possible
    simp only [next, found, look, stage, ProbeStage.look]
    cases known : s.displayProbeCache.lookup attr with
    | some displayable => exact .hit index call attr candidates keys displayable found stage known
    | none => exact .miss index call attr candidates keys found stage known
  | answer index reply =>
    obtain ⟨call, attr, candidates, keys, found, stage⟩ := possible
    simp only [next, found, stage]
    cases reply with
    | some displayable => exact .answered index call attr candidates keys displayable found stage
    | none => exact .failed index call attr candidates keys found stage
  | store index =>
    obtain ⟨call, attr, displayable, candidates, keys, found, stage⟩ := possible
    simp only [next, found, stage]
    exact .store index call attr displayable candidates keys found stage
  | finish index success =>
    obtain ⟨call, keys, found, stage⟩ := possible
    simp only [next, found, stage, finish]
    cases user : call.user with
    | resolveQueueDriftCheckKeys => exact .resolved index call keys success found stage user
    | getQueue =>
      cases success with
      | true => exact .displayed index call keys found stage user
      | false => exact .undisplayed index call keys found stage user

section Soundness

variable {truth : String → Bool} {cache : AList fun _ : String => Bool} {type : QueueType}

def Upto (truth : String → Bool) (cache : AList fun _ : String => Bool) (type : QueueType) (pending keys : List String) :
    Prop :=
  ∃ decided, decided ++ pending = (ProbeStage.start type).pending ∧
    keys = (ProbeStage.start type).keys ++ decided.filter truth ∧ ∀ attr ∈ decided, attr ∈ cache

theorem Upto.mono {pending keys : List String} (upto : Upto truth cache type pending keys)
    {later : AList fun _ : String => Bool} (grown : ∀ attr ∈ cache, attr ∈ later) : Upto truth later type pending keys := by
  obtain ⟨decided, whole, listed, cached⟩ := upto
  exact ⟨decided, whole, listed, fun attr member => grown attr (cached attr member)⟩

theorem Upto.advance {attr : String} {candidates keys : List String}
    (upto : Upto truth cache type (attr :: candidates) keys) (known : attr ∈ cache) :
    Upto truth cache type candidates (addDisplayable keys attr (truth attr)) := by
  obtain ⟨decided, whole, rfl, cached⟩ := upto
  refine ⟨decided ++ [attr], ?_, ?_, ?_⟩
  · rw [List.append_assoc, List.singleton_append, whole]
  · rw [addDisplayable, List.filter_append, List.filter_singleton]
    cases truth attr with
    | true => exact List.append_assoc _ _ _
    | false => rw [if_neg Bool.false_ne_true, cond_false, List.append_nil]
  · intro other member
    rcases List.mem_append.mp member with before | here
    · exact cached other before
    · rw [List.mem_singleton.mp here]
      exact known

theorem start_resolved (truth : String → Bool) (type : QueueType) :
    (ProbeStage.start type).keys ++ (ProbeStage.start type).pending.filter truth =
      queueDisplayParametersForGet truth type := by
  rw [ProbeStage.start, queueDisplayParametersForGet]
  split
  · exact List.append_nil _
  · rfl

theorem Upto.all {keys : List String} (upto : Upto truth cache type [] keys) :
    keys = queueDisplayParametersForGet truth type ∧ ∀ attr ∈ (ProbeStage.start type).pending, attr ∈ cache := by
  obtain ⟨decided, whole, rfl, cached⟩ := upto
  rw [List.append_nil] at whole
  rw [← start_resolved, ← whole]
  exact ⟨rfl, cached⟩

/-- A call for a local queue that began after a GetQueue of a local queue had succeeded. -/
def FollowsGetQueue (call : CacheCall) : Prop :=
  normalizeQueueType call.type = .localQueue ∧ ∃ d ∈ call.earlier, normalizeQueueType d.type = .localQueue

structure CallSound (truth : String → Bool) (s : ProbeTraffic) (call : CacheCall) : Prop where
  upto : Upto truth s.displayProbeCache call.type call.stage.pending call.stage.keys
  stored : ∀ attr displayable candidates keys,
    call.stage = .storing attr displayable candidates keys → displayable = truth attr
  earlier : ∀ d ∈ call.earlier, d ∈ s.displayed
  quiet : FollowsGetQueue call → call.probes = 0 ∧ ∃ candidates keys, call.stage = .looking candidates keys

structure EndSound (truth : String → Bool) (s : ProbeTraffic) (e : CacheEnd) : Prop where
  resolved : ∀ keys, e.result = some keys → keys = queueDisplayParametersForGet truth e.call.type
  earlier : ∀ d ∈ e.call.earlier, d ∈ s.displayed
  quiet : e.call.user = .resolveQueueDriftCheckKeys → FollowsGetQueue e.call →
    e.call.probes = 0 ∧ ∃ keys, e.result = some keys

/-- The cache has nothing but the truth, and every candidate once a GetQueue of a local queue has succeeded. -/
structure Sound (truth : String → Bool) (s : ProbeTraffic) : Prop where
  cache : ∀ attr displayable, s.displayProbeCache.lookup attr = some displayable → displayable = truth attr
  displayed : ∀ d ∈ s.displayed, d.parameters = queueDisplayParametersForGet truth d.type ∧
    ∀ attr ∈ (ProbeStage.start d.type).pending, attr ∈ s.displayProbeCache
  calls : ∀ call ∈ s.calls, CallSound truth s call
  ended : ∀ e ∈ s.ended, EndSound truth s e

structure Later (s later : ProbeTraffic) : Prop where
  cache : ∀ attr ∈ s.displayProbeCache, attr ∈ later.displayProbeCache
  displayed : ∀ d ∈ s.displayed, d ∈ later.displayed

theorem Later.refl (s : ProbeTraffic) : Later s s := ⟨fun _ member => member, fun _ member => member⟩

theorem CallSound.later {later : ProbeTraffic} {call : CacheCall} (sound : CallSound truth s call) (grown : Later s later) :
    CallSound truth later call where
  upto := sound.upto.mono grown.cache
  stored := sound.stored
  earlier d member := grown.displayed d (sound.earlier d member)
  quiet := sound.quiet

theorem EndSound.later {later : ProbeTraffic} {e : CacheEnd} (sound : EndSound truth s e) (grown : Later s later) :
    EndSound truth later e where
  resolved := sound.resolved
  earlier d member := grown.displayed d (sound.earlier d member)
  quiet := sound.quiet

theorem Sound.start (truth : String → Bool) : Sound truth start where
  cache _ _ known := nomatch known
  displayed _ member := nomatch member
  calls _ member := nomatch member
  ended _ member := nomatch member

theorem start_pending_of_local (isLocal : normalizeQueueType type = .localQueue) :
    (ProbeStage.start type).pending = queueLocalDefineOnlyCandidates := by
  rw [ProbeStage.start, if_neg (not_not_intro isLocal)]
  rfl

theorem Sound.cached (sound : Sound truth s) {call : CacheCall} (known : ∀ d ∈ call.earlier, d ∈ s.displayed)
    (follows : FollowsGetQueue call) : ∀ attr ∈ (ProbeStage.start call.type).pending, attr ∈ s.displayProbeCache := by
  obtain ⟨isLocal, d, member, wasLocal⟩ := follows
  have warm := (sound.displayed d (known d member)).2
  rw [start_pending_of_local wasLocal] at warm
  rwa [start_pending_of_local isLocal]

theorem CallSound.upto_at {call : CacheCall} (sound : CallSound truth s call) {stage : ProbeStage}
    (here : call.stage = stage) : Upto truth s.displayProbeCache call.type stage.pending stage.keys := by
  rw [← here]
  exact sound.upto

theorem CallSound.not_follows {call : CacheCall} (sound : CallSound truth s call) {stage : ProbeStage}
    (here : call.stage = stage) (other : ∀ candidates keys, stage ≠ .looking candidates keys) : ¬ FollowsGetQueue call := by
  intro follows
  obtain ⟨-, candidates, keys, looking⟩ := sound.quiet follows
  exact other candidates keys (here.symm.trans looking)

theorem Sound.move (sound : Sound truth s) (index : Nat) {call : CacheCall} {stage : ProbeStage}
    (moved : CallSound truth s { call with stage }) : Sound truth (s.move index call stage) := by
  have same : Later s (s.move index call stage) := ⟨fun _ member => member, fun _ member => member⟩
  refine ⟨sound.cache, sound.displayed, ?_, fun e member => (sound.ended e member).later same⟩
  exact forall_set (fun other member => (sound.calls other member).later same) (moved.later same)

theorem Sound.leave (sound : Sound truth s) (index : Nat) {call : CacheCall} {result : Option (List String)}
    (left : EndSound truth s ⟨call, result⟩) : Sound truth (s.leave index call result) := by
  have same : Later s (s.leave index call result) := ⟨fun _ member => member, fun _ member => member⟩
  refine ⟨sound.cache, sound.displayed, ?_, ?_⟩
  · intro other member
    exact (sound.calls other (List.mem_of_mem_eraseIdx member)).later same
  · intro e member
    rcases List.mem_cons.mp member with rfl | before
    · exact left.later same
    · exact (sound.ended e before).later same

theorem Sound.enter (sound : Sound truth s) (user : CacheUser) (type : QueueType) : Sound truth (s.enter user type) := by
  have same : Later s (s.enter user type) := ⟨fun _ member => member, fun _ member => member⟩
  have began : ∃ candidates keys, ProbeStage.start type = .looking candidates keys := by
    rw [ProbeStage.start]
    split
    · exact ⟨_, _, rfl⟩
    · exact ⟨_, _, rfl⟩
  refine ⟨sound.cache, sound.displayed, ?_, fun e member => (sound.ended e member).later same⟩
  intro call member
  rcases List.mem_append.mp member with before | new
  · exact (sound.calls call before).later same
  · rw [List.mem_singleton.mp new]
    obtain ⟨candidates, keys, looking⟩ := began
    refine ⟨⟨[], rfl, (List.append_nil _).symm, nofun⟩, ?_, fun _ member => member, fun _ => ⟨rfl, candidates, keys, looking⟩⟩
    intro attr displayable candidates' keys' storing
    rw [looking] at storing
    cases storing

theorem Sound.store (sound : Sound truth s) (attr : String) :
    Sound truth { s with displayProbeCache := s.displayProbeCache.insert attr (truth attr) } := by
  have grown : Later s { s with displayProbeCache := s.displayProbeCache.insert attr (truth attr) } :=
    ⟨fun _ member => (AList.mem_insert _).mpr (.inr member), fun _ member => member⟩
  refine ⟨?_, ?_, fun call member => (sound.calls call member).later grown,
    fun e member => (sound.ended e member).later grown⟩
  · intro other displayable known
    by_cases here : other = attr
    · rw [here, AList.lookup_insert] at known
      rw [here]
      exact (Option.some.inj known).symm
    · rw [AList.lookup_insert_ne here] at known
      exact sound.cache other displayable known
  · intro d member
    obtain ⟨listed, warm⟩ := sound.displayed d member
    exact ⟨listed, fun other pending => grown.cache other (warm other pending)⟩

theorem Sound.display (sound : Sound truth s) {d : GetSuccess}
    (listed : d.parameters = queueDisplayParametersForGet truth d.type)
    (warm : ∀ attr ∈ (ProbeStage.start d.type).pending, attr ∈ s.displayProbeCache) :
    Sound truth { s with displayed := d :: s.displayed } := by
  have grown : Later s { s with displayed := d :: s.displayed } :=
    ⟨fun _ member => member, fun _ member => List.mem_cons_of_mem _ member⟩
  refine ⟨sound.cache, ?_, fun call member => (sound.calls call member).later grown,
    fun e member => (sound.ended e member).later grown⟩
  intro other member
  rcases List.mem_cons.mp member with rfl | before
  · exact ⟨listed, warm⟩
  · exact sound.displayed other before

theorem Sound.next (sound : Sound truth s) {event : ProbeEvent} (possible : s.valid event)
    (consistent : s.Consistent truth event) : Sound truth (s.next event) := by
  have moved := step_cases possible
  generalize s.next event = after at moved
  cases moved with
  | call user type => exact sound.enter user type
  | hit index call attr candidates keys displayable found stage known =>
    have before := sound.calls call (List.mem_of_getElem? found)
    have upto := before.upto_at stage
    have told := sound.cache attr displayable known
    have member : attr ∈ s.displayProbeCache := AList.lookup_isSome.mp (Option.isSome_iff_exists.mpr ⟨_, known⟩)
    subst told
    exact sound.move index ⟨upto.advance member, nofun, before.earlier, fun follows =>
      ⟨(before.quiet follows).1, _, _, rfl⟩⟩
  | miss index call attr candidates keys found stage unknown =>
    have before := sound.calls call (List.mem_of_getElem? found)
    have upto := before.upto_at stage
    refine sound.move index ⟨upto, nofun, before.earlier, fun follows => ?_⟩
    obtain ⟨decided, whole, -⟩ := upto
    have member := sound.cached before.earlier follows attr (whole ▸ List.mem_append_right _ List.mem_cons_self)
    rw [← AList.lookup_isSome, unknown] at member
    cases member
  | answered index call attr candidates keys displayable found stage =>
    have before := sound.calls call (List.mem_of_getElem? found)
    have upto := before.upto_at stage
    have told := consistent call attr candidates keys found stage
    refine sound.move index ⟨upto, ?_, before.earlier, fun follows => absurd follows (before.not_follows stage nofun)⟩
    intro attr' displayable' candidates' keys' same
    cases same
    exact told
  | failed index call attr candidates keys found stage =>
    have before := sound.calls call (List.mem_of_getElem? found)
    exact sound.leave index ⟨nofun, before.earlier, fun _ follows => absurd follows (before.not_follows stage nofun)⟩
  | store index call attr displayable candidates keys found stage =>
    have before := sound.calls call (List.mem_of_getElem? found)
    have told := before.stored attr displayable candidates keys stage
    subst told
    have stored := sound.store attr
    have upto := (stored.calls call (List.mem_of_getElem? found)).upto_at stage
    exact stored.move index ⟨upto.advance ((AList.mem_insert _).mpr (.inl rfl)), nofun, before.earlier,
      fun follows => absurd follows (before.not_follows stage nofun)⟩
  | resolved index call keys success found stage user =>
    have before := sound.calls call (List.mem_of_getElem? found)
    have upto := before.upto_at stage
    refine sound.leave index ⟨?_, before.earlier, fun _ follows => ⟨(before.quiet follows).1, keys, rfl⟩⟩
    intro keys' same
    cases same
    exact upto.all.1
  | displayed index call keys found stage user =>
    have before := sound.calls call (List.mem_of_getElem? found)
    have upto := before.upto_at stage
    have shown : Sound truth { s with displayed := ⟨call.type, keys⟩ :: s.displayed } :=
      sound.display upto.all.1 upto.all.2
    refine shown.leave index ⟨?_, fun d member => List.mem_cons_of_mem _ (before.earlier d member), fun resolving => ?_⟩
    · intro keys' same
      cases same
      exact upto.all.1
    · rw [user] at resolving
      cases resolving
  | undisplayed index call keys found stage user =>
    have before := sound.calls call (List.mem_of_getElem? found)
    refine sound.leave index ⟨nofun, before.earlier, fun resolving => ?_⟩
    rw [user] at resolving
    cases resolving

theorem Sound.reach {later : ProbeTraffic} (run : probeTraffic.Reach (Consistent truth) ProbeTraffic.start later) :
    Sound truth later :=
  run.invariant (Sound truth) (.start truth) fun _ _ sound possible consistent => sound.next possible consistent

def lookThrough (index : Nat) : Nat → List ProbeEvent
  | 0 => [.finish index true]
  | left + 1 => .look index :: lookThrough index left

theorem Sound.finishes {index : Nat} {call : CacheCall} (sound : Sound truth s) (found : s.calls[index]? = some call)
    (user : call.user = .resolveQueueDriftCheckKeys) (follows : FollowsGetQueue call) {left : Nat}
    (length : call.stage.pending.length = left) :
    probeTraffic.Follows (Consistent truth) s (lookThrough index left) ∧
      ∃ e ∈ ((lookThrough index left).foldl probeTraffic.next s).ended,
        e.call.earlier = call.earlier ∧ e.result = some (queueDisplayParametersForGet truth call.type) := by
  induction left generalizing s call with
  | zero =>
    have before := sound.calls call (List.mem_of_getElem? found)
    obtain ⟨-, candidates, keys, stage⟩ := before.quiet follows
    have upto := before.upto_at stage
    rw [stage] at length
    obtain rfl : candidates = [] := List.length_eq_zero_iff.mp length
    have left : s.next (.finish index true) = s.leave index call (some keys) := by
      simp only [ProbeTraffic.next, found, stage, finish, user]
    refine ⟨⟨⟨call, keys, found, stage⟩, trivial, trivial⟩, ⟨call, some keys⟩, ?_, rfl, congrArg some upto.all.1⟩
    rw [lookThrough, List.foldl_cons, List.foldl_nil]
    change (⟨call, some keys⟩ : CacheEnd) ∈ (s.next (.finish index true)).ended
    rw [left]
    exact List.mem_cons_self
  | succ left ih =>
    have before := sound.calls call (List.mem_of_getElem? found)
    obtain ⟨-, candidates, keys, stage⟩ := before.quiet follows
    have upto := before.upto_at stage
    rw [stage] at length
    obtain ⟨attr, rest, rfl⟩ := List.exists_cons_of_length_eq_add_one length
    have possible : s.valid (.look index) := ⟨call, attr, rest, keys, found, stage⟩
    obtain ⟨decided, whole, -⟩ := upto
    have member := sound.cached before.earlier follows attr (whole ▸ List.mem_append_right _ List.mem_cons_self)
    obtain ⟨displayable, known⟩ := Option.isSome_iff_exists.mp (AList.lookup_isSome.mpr member)
    have moved : s.next (.look index) = s.move index call (.looking rest (addDisplayable keys attr displayable)) := by
      simp only [ProbeTraffic.next, found, look, stage, ProbeStage.look, known]
    have after : Sound truth (s.move index call (.looking rest (addDisplayable keys attr displayable))) :=
      moved ▸ sound.next possible trivial
    have bound : index < s.calls.length := (List.getElem?_eq_some_iff.mp found).1
    obtain ⟨rest_follows, e, member, kept⟩ :=
      @ih _ { call with stage := .looking rest (addDisplayable keys attr displayable) } after
        (List.getElem?_set_self bound) user follows (Nat.succ.inj length)
    refine ⟨⟨possible, trivial, ?_⟩, e, ?_, kept⟩
    · change probeTraffic.Follows (Consistent truth) (s.next (.look index)) _
      rw [moved]
      exact rest_follows
    · rw [lookThrough, List.foldl_cons]
      change e ∈ ((lookThrough index left).foldl probeTraffic.next (s.next (.look index))).ended
      rw [moved]
      exact member

theorem displayParameters_of_local (truth : String → Bool) {type other : QueueType}
    (isLocal : normalizeQueueType type = .localQueue) (otherLocal : normalizeQueueType other = .localQueue) :
    queueDisplayParametersForGet truth type = queueDisplayParametersForGet truth other := by
  rw [queueDisplayParametersForGet, queueDisplayParametersForGet, if_neg (not_not_intro isLocal),
    if_neg (not_not_intro otherLocal)]

/-- The keys of a call after a success of GetQueue are the parameters that the GetQueue had asked for, without a probe:
for one that has ended, for one in progress beside any others, and for one that runs alone. -/
theorem checked_keys_were_displayed [UnicodeTables] (truth : String → Bool) {later : ProbeTraffic}
    (run : probeTraffic.Reach (Consistent truth) ProbeTraffic.start later) (d : GetSuccess)
    (wasLocal : normalizeQueueType d.type = .localQueue) :
    (∀ e ∈ later.ended, e.call.user = .resolveQueueDriftCheckKeys → normalizeQueueType e.call.type = .localQueue →
      d ∈ e.call.earlier → e.call.probes = 0 ∧ e.result = some d.parameters) ∧
    (∀ index call, later.calls[index]? = some call → call.user = .resolveQueueDriftCheckKeys →
      normalizeQueueType call.type = .localQueue → d ∈ call.earlier →
        call.probes = 0 ∧ (∀ attr candidates keys, call.stage ≠ .probing attr candidates keys) ∧
        probeTraffic.Follows (Consistent truth) later (lookThrough index call.stage.pending.length) ∧
        ∃ e ∈ ((lookThrough index call.stage.pending.length).foldl probeTraffic.next later).ended,
          d ∈ e.call.earlier ∧ e.result = some d.parameters) ∧
    (d ∈ later.displayed → ∀ (σ : Type) (net : Network σ) (client : Client) (wire : Wire σ) (type : QueueType),
      normalizeQueueType type = .localQueue →
        resolveQueueDriftCheckKeys net client type ⟨wire, later.displayProbeCache⟩ =
          (.ok d.parameters, ⟨wire, later.displayProbeCache⟩)) := by
  have sound := Sound.reach run
  refine ⟨?_, ?_, ?_⟩
  · intro e member user isLocal began
    have ended := sound.ended e member
    obtain ⟨silent, keys, returned⟩ := ended.quiet user ⟨isLocal, d, began, wasLocal⟩
    have listed := (sound.displayed d (ended.earlier d began)).1
    refine ⟨silent, ?_⟩
    rw [returned, ended.resolved keys returned, listed, displayParameters_of_local truth isLocal wasLocal]
  · intro index call found user isLocal began
    have before := sound.calls call (List.mem_of_getElem? found)
    have follows : FollowsGetQueue call := ⟨isLocal, d, began, wasLocal⟩
    have listed := (sound.displayed d (before.earlier d began)).1
    obtain ⟨possible, e, member, same, returned⟩ := sound.finishes found user follows rfl
    refine ⟨(before.quiet follows).1, fun _ _ _ stage => before.not_follows stage nofun follows, possible, e, member, ?_, ?_⟩
    · rw [same]
      exact began
    · rw [returned, listed, displayParameters_of_local truth isLocal wasLocal]
  · intro shown σ net client wire type isLocal
    obtain ⟨listed, warm⟩ := sound.displayed d shown
    rw [start_pending_of_local wasLocal] at warm
    have cached : ∀ attr ∈ queueLocalDefineOnlyCandidates, later.displayProbeCache.lookup attr = some (truth attr) := by
      intro attr member
      obtain ⟨displayable, known⟩ := Option.isSome_iff_exists.mp (AList.lookup_isSome.mpr (warm attr member))
      rw [known, sound.cache attr displayable known]
    have resolved : queueDisplayParametersForGet truth d.type =
        queueLocalDisplayParameters ++ queueLocalDefineOnlyCandidates.filter truth := by
      rw [queueDisplayParametersForGet, if_neg (not_not_intro wasLocal), queueLocalDisplayParametersResolved]
    rw [resolveQueueDriftCheckKeys, if_neg (not_not_intro isLocal), Client.queueLocalDisplayParametersResolved, listed,
      resolved]
    exact ProbeStage.resolveCandidates_cached net client cached queueLocalDisplayParameters

end Soundness

/-- A GetQueue that probes every candidate and finds none displayable, and a call that begins after its success. -/
def warmUp : List ProbeEvent :=
  .call .getQueue .localQueue ::
    (List.replicate 6 [ProbeEvent.look 0, .answer 0 (some false), .store 0]).flatten ++
      [.finish 0 true, .call .resolveQueueDriftCheckKeys .localQueue]

theorem warmUp_follows : probeTraffic.Follows (Consistent fun _ => false) ProbeTraffic.start warmUp := by
  refine ⟨trivial, trivial, ?_⟩
  iterate 6
    refine ⟨⟨_, _, _, _, rfl, rfl⟩, trivial, ⟨_, _, _, _, rfl, rfl⟩, fun _ _ _ _ _ _ => rfl, ⟨_, _, _, _, _, rfl, rfl⟩,
      trivial, ?_⟩
  exact ⟨⟨_, _, rfl, rfl⟩, trivial, trivial, trivial, trivial⟩

section Cases

attribute [local instance] asciiTables

theorem warmUp_resolved :
    ∃ call, (warmUp.foldl probeTraffic.next ProbeTraffic.start).calls[0]? = some call ∧ call.probes = 0 ∧
      ∃ e ∈ ((lookThrough 0 6).foldl probeTraffic.next (warmUp.foldl probeTraffic.next ProbeTraffic.start)).ended,
        e.result = some queueLocalDisplayParameters := by
  have run := System.Reach.start.follow warmUp warmUp_follows
  obtain ⟨silent, -, -, e, member, -, returned⟩ :=
    (checked_keys_were_displayed (fun _ => false) run ⟨.localQueue, queueLocalDisplayParameters⟩ rfl).2.1 0 _ rfl rfl rfl
      List.mem_cons_self
  exact ⟨_, rfl, silent, e, member, returned⟩

end Cases

end ProbeTraffic

end MKurator.MqRest
