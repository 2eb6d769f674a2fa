import FluxBar.IconService
import FluxBar.Library.Places
import Mathlib.Algebra.BigOperators.Group.List.Basic

/-! A load has one leader from its entry into `loads` to the removal of it, so the requests
for a feed never overlap. What the cache holds is not looked up again by a call that becomes
the leader: one that found the cache empty before the icon was stored, and `loads` empty
after the load was removed, asks for the icon once more. -/
namespace FluxBar
open Transition Relational Places

/-! ## Where a call stands -/

namespace IconPhase

/-- From the entry of a load to its removal. -/
def leads : IconPhase → Bool
  | .guarded _ | .requesting _ | .processing _ | .loaded _ _ | .dropping _ _ => true
  | _ => false

/-- A leader that has not got the icon yet. -/
def fetches : IconPhase → Bool
  | .guarded _ | .requesting _ | .processing _ => true
  | _ => false

/-- The request for the icon is in progress. -/
def requests : IconPhase → Bool
  | .requesting _ => true
  | _ => false

/-- After the lookup of the cache, before the entry of a load: what such a call has seen of
the cache may be out of date. -/
def passed : IconPhase → Bool
  | .missed | .unled => true
  | _ => false

variable {phase : IconPhase}

theorem leads_of_requests (requesting : phase.requests = true) : phase.leads = true := by
  cases phase <;> first | rfl | cases requesting

theorem leads_of_fetches (fetching : phase.fetches = true) : phase.leads = true := by
  cases phase <;> first | rfl | cases fetching

end IconPhase

namespace IconCall

def leads (feedId : Int) (call : IconCall) : Bool := call.feedId = feedId && call.phase.leads

end IconCall

namespace IconCalls

/-- The requests for the icon of a feed that are in progress, counted over all calls. -/
def inProgress (state : IconCalls) (feedId : Int) : Nat :=
  state.calls.countP fun call => call.feedId = feedId && call.phase.requests

/-- A load may be taken away while an icon is cached only when no other call is on its way
from the lookup of the cache to `loads`. It is asked of the state before the load is taken
away. -/
def Quiet : Admission := fun service others feedId =>
  (service.cache.get? feedId).isSome →
    ∀ call ∈ others, call.feedId = feedId → call.phase.passed = false

end IconCalls

/-! ## What a step does to the two maps -/

namespace IconService
variable {service : IconService} {feedId other : Int} {slot : Nat}

@[simp] theorem cache_changeSlot (change : LoadSlot → LoadSlot) :
    (service.changeSlot slot change).cache = service.cache := rfl

@[simp] theorem loads_changeSlot (change : LoadSlot → LoadSlot) :
    (service.changeSlot slot change).loads = service.loads := rfl

theorem get?_store (icon : CachedIcon) : (service.store feedId icon).cache.get? other =
    if other = feedId then some icon else service.cache.get? other := by
  unfold store
  rw [Dictionary.get?_revise]
  split <;> rfl

theorem get?_removeLoad : (service.removeLoad feedId).loads.get? other =
    if other = feedId then none else service.loads.get? other := by
  unfold removeLoad
  rw [Dictionary.get?_filterKeys]
  by_cases same : other = feedId <;> simp [same]

end IconService

/-- A step of a call that leaves both maps alone. -/
structure IconCall.Aside (service after : IconService) (feedId : Int) (phase next : IconPhase) :
    Prop where
  cache : after.cache = service.cache
  loads : after.loads = service.loads
  leads : next.leads = phase.leads
  fetches : next.fetches = true → phase.fetches = true
  passed : next.passed = true → service.cache.get? feedId = none ∨
    phase.passed = true ∧ service.loads.get? feedId = none

namespace IconCall
variable {service after : IconService} {feedId : Int} {slot : Nat} {expired : Bool}
  {phase next : IconPhase}

theorem aside_join : Aside service (service.join slot expired).1 feedId (.joining slot)
    (service.join slot expired).2 := by
  unfold IconService.join
  by_cases ready : service.isReady slot = true
  · constructor <;> simp [ready, IconPhase.leads, IconPhase.fetches, IconPhase.passed]
  · cases expired <;> constructor <;> simp [ready, IconPhase.leads, IconPhase.fetches, IconPhase.passed]

theorem aside_wake : Aside service (service.wake slot expired).1 feedId (.waiting slot)
    (service.wake slot expired).2 := by
  unfold IconService.wake
  by_cases ready : service.isReady slot = true
  · constructor <;> simp [ready, IconPhase.leads, IconPhase.fetches, IconPhase.passed]
  · cases expired <;> constructor <;> simp [ready, IconPhase.leads, IconPhase.fetches, IconPhase.passed]

/-- What a step of a call can do: leave both maps alone, enter a load, or store an icon. -/
theorem step_cases (step : Step service feedId expired phase after next) :
    Aside service after feedId phase next ∨
    (after.cache = service.cache ∧ phase = .unled ∧ service.loads.get? feedId = none ∧
      (∀ other, (after.loads.get? other).isSome =
        (decide (other = feedId) || (service.loads.get? other).isSome)) ∧
      ∃ slot, next = .guarded slot) ∨
    ∃ slot icon, phase = .loaded slot icon ∧ after = service.store feedId icon ∧
      next = .dropping slot (some icon) := by
  cases step with
  | lookCache =>
    left
    unfold IconService.lookCache
    cases held : service.cache.get? feedId with
    | none => exact ⟨rfl, rfl, rfl, fun absurd => (by cases absurd), fun _ => .inl held⟩
    | some icon => constructor <;> simp [IconPhase.leads, IconPhase.fetches, IconPhase.passed]
  | lookLoads =>
    left
    unfold IconService.lookLoads
    cases held : service.loads.get? feedId with
    | none => exact ⟨rfl, rfl, rfl, fun absurd => (by cases absurd), fun _ => .inr ⟨rfl, held⟩⟩
    | some slot => constructor <;> simp [IconPhase.leads, IconPhase.fetches, IconPhase.passed]
  | join => exact .inl aside_join
  | wake => exact .inl aside_wake
  | check =>
    left
    cases expired <;> constructor <;> simp [IconPhase.leads, IconPhase.fetches, IconPhase.passed]
  | lead =>
    unfold IconService.lead
    cases held : service.loads.get? feedId with
    | none =>
      refine .inr (.inl ⟨rfl, rfl, rfl, fun other => ?_, _, rfl⟩)
      simp only [Option.isSome_none, Bool.false_eq_true, ↓reduceIte, Dictionary.get?_revise]
      by_cases same : other = feedId <;> simp [same]
    | some slot =>
      left
      constructor <;> simp [IconPhase.leads, IconPhase.fetches, IconPhase.passed]
  | store slot icon => exact .inr (.inr ⟨slot, icon, rfl, rfl, rfl⟩)
  | read | answered | unanswered | processed | unprocessed | announce =>
    left
    constructor <;> simp [IconService.announce, IconPhase.leads, IconPhase.fetches, IconPhase.passed]

end IconCall

/-! ## The leader of a load -/

namespace IconCalls
variable {admits : Admission} {state after : IconCalls}

/-- A feed has a leader exactly while it has a load, so that it never has two. -/
def OneLeader (state : IconCalls) : Prop := ∀ feedId,
  state.calls.countP (IconCall.leads feedId) = (state.service.loads.get? feedId).isSome.toNat

theorem oneLeader_step (held : OneLeader state) (step : Step admits state after) :
    OneLeader after := by
  intro feedId
  have before := held feedId
  cases step with
  | tick => exact before
  | call =>
    rw [List.countP_cons_of_neg (by simp [IconCall.leads, IconPhase.leads])]
    exact before
  | @move left right call service phase place step =>
    rw [place, countP_place] at before
    rw [countP_place]
    unfold IconCall.leads at before ⊢
    rcases IconCall.step_cases step with aside | ⟨_, was, absent, entered, slot, rfl⟩ |
        ⟨slot, icon, was, rfl, rfl⟩
    · rw [aside.leads, aside.loads]
      exact before
    · rw [was] at before
      rw [entered]
      by_cases same : call.feedId = feedId
      · subst same
        rw [absent] at before
        simpa [IconPhase.leads] using before
      · simpa [same, Ne.symm same] using before
    · rw [was] at before
      exact before
  | @request left right other deadline slot place =>
    rw [place, countP_place] at before
    rw [countP_place]
    exact before
  | @remove left right other deadline slot result place _ =>
    rw [place, countP_place] at before
    rw [countP_place, IconService.get?_removeLoad]
    have led : IconCall.leads feedId ⟨other, deadline, .dropping slot result⟩ =
        decide (other = feedId) := Bool.and_true _
    have leaves : IconCall.leads feedId ⟨other, deadline, .announcing slot result⟩ = false :=
      Bool.and_false _
    rw [led] at before
    rw [leaves]
    by_cases same : other = feedId
    · have bound := Bool.toNat_le (state.service.loads.get? feedId).isSome
      simp only [same, decide_true, Bool.toNat_true] at before
      rw [if_pos same.symm]
      change _ + 0 = 0
      omega
    · simpa [same, Ne.symm same] using before

theorem oneLeader (reached : (iconCalls admits).Reachable state) : OneLeader state := by
  refine reached.invariant _ ?_ fun state after _ held step => oneLeader_step held step
  rintro _ ⟨now, rfl⟩ feedId
  rfl

theorem inProgress_le_one (reached : (iconCalls admits).Reachable state) (feedId : Int) :
    state.inProgress feedId ≤ 1 := by
  have leading : state.inProgress feedId ≤ state.calls.countP (IconCall.leads feedId) := by
    refine List.countP_mono_left fun call _ requesting => ?_
    simp only [Bool.and_eq_true, decide_eq_true_eq] at requesting
    simp [IconCall.leads, requesting.1, IconPhase.leads_of_requests requesting.2]
  have bound := Bool.toNat_le (state.service.loads.get? feedId).isSome
  have counted := oneLeader reached feedId
  omega

/-- A leader has its load, and the other calls of the feed do not lead. -/
theorem OneLeader.alone (held : OneLeader state) {left right : List IconCall} {call : IconCall}
    (place : state.calls = left ++ call :: right) (leading : call.phase.leads = true) :
    (state.service.loads.get? call.feedId).isSome ∧
      ∀ other ∈ left ++ right, other.feedId = call.feedId → other.phase.leads = false := by
  have counted := held call.feedId
  have bound := Bool.toNat_le (state.service.loads.get? call.feedId).isSome
  rw [place, countP_place, ← List.countP_append] at counted
  have one : (call.leads call.feedId).toNat = 1 := by simp [IconCall.leads, leading]
  constructor
  · cases found : (state.service.loads.get? call.feedId).isSome with
    | true => rfl
    | false =>
      rw [found, one] at counted
      simp at counted
  · intro other among same
    have none : (left ++ right).countP (IconCall.leads call.feedId) = 0 := by omega
    simpa [IconCall.leads, same] using List.countP_eq_zero.mp none other among

/-! ## What stays stored -/

/-- Beside an icon in the cache a call is not about to request it, and finds a load when it
gets to `loads`. -/
structure Kept (service : IconService) (call : IconCall) : Prop where
  idle : (service.cache.get? call.feedId).isSome → call.phase.fetches = false
  led : (service.cache.get? call.feedId).isSome → call.phase.passed = true →
    (service.loads.get? call.feedId).isSome

namespace Kept
variable {service after : IconService} {call : IconCall} {feedId : Int} {next : IconPhase}

/-- A step beside the call that only adds loads. -/
theorem mono (kept : Kept service call) (cache : after.cache = service.cache)
    (loads : ∀ other, (service.loads.get? other).isSome → (after.loads.get? other).isSome) :
    Kept after call where
  idle := by
    rw [cache]
    exact kept.idle
  led cached passed := by
    rw [cache] at cached
    exact loads _ (kept.led cached passed)

theorem aside (kept : Kept service call)
    (step : IconCall.Aside service after call.feedId call.phase next) :
    Kept after { call with phase := next } where
  idle cached := by
    rw [step.cache] at cached
    have still := kept.idle cached
    exact Bool.eq_false_iff.mpr fun fetching => Bool.eq_false_iff.mp still (step.fetches fetching)
  led cached passed := by
    rw [step.cache] at cached
    rw [step.loads]
    rcases step.passed passed with missing | ⟨passed, _⟩
    · rw [missing] at cached
      cases cached
    · exact kept.led cached passed

/-- A call on its way to `loads` finds no load only while nothing is cached. -/
theorem uncached (kept : Kept service call) (passed : call.phase.passed = true)
    (absent : service.loads.get? call.feedId = none) :
    ¬ (service.cache.get? call.feedId).isSome := by
  intro cached
  have found := kept.led cached passed
  rw [absent] at found
  cases found

theorem store (kept : Kept service call) {icon : CachedIcon}
    (loaded : (service.loads.get? feedId).isSome)
    (alone : call.feedId = feedId → call.phase.leads = false) :
    Kept (service.store feedId icon) call := by
  by_cases same : call.feedId = feedId
  · refine ⟨fun _ => Bool.eq_false_iff.mpr fun fetching => ?_, fun _ _ => ?_⟩
    · have idle := alone same
      rw [IconPhase.leads_of_fetches fetching] at idle
      cases idle
    · rw [same]
      exact loaded
  · constructor
    · rw [IconService.get?_store, if_neg same]
      exact kept.idle
    · rw [IconService.get?_store, if_neg same]
      exact kept.led

theorem removeLoad (kept : Kept service call)
    (quiet : (service.cache.get? feedId).isSome → call.feedId = feedId → call.phase.passed = false) :
    Kept (service.removeLoad feedId) call := by
  refine ⟨kept.idle, fun cached passed => ?_⟩
  by_cases same : call.feedId = feedId
  · have still := quiet (same ▸ cached) same
    rw [passed] at still
    cases still
  · rw [IconService.get?_removeLoad, if_neg same]
    exact kept.led cached passed

end Kept

/-- What quiet runs keep: no call is on its way to request an icon that is cached, and none
has requested one. -/
structure Settled (state : IconCalls) : Prop where
  kept : ∀ call ∈ state.calls, Kept state.service call
  once : state.refetched = []

theorem Settled.place (held : Settled state) {left right : List IconCall} {call : IconCall}
    (place : state.calls = left ++ call :: right) :
    Kept state.service call ∧ ∀ other ∈ left ++ right, Kept state.service other := by
  have kept := held.kept
  rw [place] at kept
  exact forall_mem_place.mp kept

theorem settled_step (leader : OneLeader state) (held : Settled state)
    (step : Step Quiet state after) : Settled after := by
  cases step with
  | tick => exact ⟨held.kept, held.once⟩
  | call feedId deadline =>
    refine ⟨List.forall_mem_cons.mpr ⟨?_, held.kept⟩, held.once⟩
    exact ⟨fun _ => rfl, fun _ passed => by cases passed⟩
  | @move left right call service phase place step =>
    obtain ⟨own, others⟩ := held.place place
    refine ⟨forall_mem_place.mpr ?_, held.once⟩
    rcases IconCall.step_cases step with aside | ⟨cache, was, absent, entered, slot, rfl⟩ |
        ⟨slot, icon, was, rfl, rfl⟩
    · refine ⟨own.aside aside, fun other among => (others other among).mono aside.cache ?_⟩
      rw [aside.loads]
      exact fun _ found => found
    · have empty : ¬ (service.cache.get? call.feedId).isSome := by
        rw [cache]
        exact own.uncached (by rw [was]; rfl) absent
      refine ⟨⟨fun cached => absurd cached empty, fun cached => absurd cached empty⟩,
        fun other among => (others other among).mono cache fun feedId found => ?_⟩
      rw [entered, found, Bool.or_true]
    · obtain ⟨loaded, alone⟩ := leader.alone place (by rw [was]; rfl)
      exact ⟨⟨fun _ => rfl, fun _ passed => by cases passed⟩,
        fun other among => (others other among).store loaded (alone other among)⟩
  | @request left right feedId deadline slot place =>
    obtain ⟨own, others⟩ := held.place place
    have empty : ¬ (state.service.cache.get? feedId).isSome := by
      intro cached
      cases own.idle cached
    refine ⟨forall_mem_place.mpr ⟨?_, others⟩, ?_⟩
    · exact ⟨fun cached => absurd cached empty, fun cached => absurd cached empty⟩
    · rw [if_neg empty]
      exact held.once
  | @remove left right feedId deadline slot result place admitted =>
    obtain ⟨own, others⟩ := held.place place
    refine ⟨forall_mem_place.mpr ⟨⟨fun _ => rfl, fun _ passed => by cases passed⟩, ?_⟩, held.once⟩
    exact fun other among => (others other among).removeLoad fun cached => admitted cached other among

theorem settled (reached : (iconCalls Quiet).Reachable state) : Settled state := by
  refine reached.invariant _ ?_ fun state after reached held step =>
    settled_step (oneLeader reached) held step
  rintro _ ⟨now, rfl⟩
  exact ⟨fun call absurd => (by cases absurd), rfl⟩

/-! ## A second request -/

section Refetch
variable {left right : List IconCall} {feedId : Int} {deadline : Option Nat}

/-- A call that has found neither an icon nor a load requests the icon. -/
theorem refetches_unled (place : state.calls = left ++ ⟨feedId, deadline, .unled⟩ :: right)
    (cached : (state.service.cache.get? feedId).isSome)
    (absent : state.service.loads.get? feedId = none) :
    ∃ later, Relation.ReflTransGen (Step admits) state later ∧ feedId ∈ later.refetched := by
  have enters := @IconCall.Step.lead state.service feedId
    (IconCall.expired ⟨feedId, deadline, .unled⟩ state.now)
  unfold IconService.lead at enters
  rw [absent] at enters
  simp only [Option.isSome_none, Bool.false_eq_true, ↓reduceIte] at enters
  have led := @Step.move admits _ _ _ _ _ _ place enters
  refine ⟨_, .tail (.single led) (.request rfl), ?_⟩
  dsimp only
  rw [if_pos cached]
  exact List.mem_cons_self

/-- So does one that has only found no icon yet: it finds no load either, becomes the
leader, and requests the icon again. -/
theorem refetches_passed {call : IconCall} (among : call ∈ state.calls) (same : call.feedId = feedId)
    (passed : call.phase.passed = true) (cached : (state.service.cache.get? feedId).isSome)
    (absent : state.service.loads.get? feedId = none) :
    ∃ later, Relation.ReflTransGen (Step admits) state later ∧ feedId ∈ later.refetched := by
  obtain ⟨id, deadline, phase⟩ := call
  cases same
  obtain ⟨left, right, place⟩ := List.append_of_mem among
  cases phase with
  | missed =>
    have looks := @IconCall.Step.lookLoads state.service id
      (IconCall.expired ⟨id, deadline, .missed⟩ state.now)
    unfold IconService.lookLoads at looks
    rw [absent] at looks
    have looked := @Step.move admits _ _ _ _ _ _ place looks
    obtain ⟨later, run, again⟩ := @refetches_unled admits
      { state with calls := left ++ ⟨id, deadline, .unled⟩ :: right } _ _ _ _ rfl cached absent
    exact ⟨later, .head looked run, again⟩
  | unled => exact refetches_unled place cached absent
  | _ => cases passed

end Refetch

/-- The requests for the icon of a feed never overlap. None begins while the cache holds the
icon, provided no load is taken away beside a call on its way from the cache to `loads`; and
a load taken away beside such a call leaves a state from which the icon is requested again. -/
theorem requests_once (feedId : Int) :
    (∀ admits state, (iconCalls admits).Reachable state → state.inProgress feedId ≤ 1) ∧
    (∀ state, (iconCalls Quiet).Reachable state → feedId ∉ state.refetched) ∧
    ∀ admits state left right deadline slot result,
      (iconCalls admits).Reachable state →
      state.calls = left ++ ⟨feedId, deadline, .dropping slot result⟩ :: right →
      ¬ Quiet state.service (left ++ right) feedId →
      ∃ later, Relation.ReflTransGen (Step admits)
        { state with
          service := state.service.removeLoad feedId
          calls := left ++ ⟨feedId, deadline, .announcing slot result⟩ :: right } later ∧
        feedId ∈ later.refetched := by
  refine ⟨fun admits state reached => inProgress_le_one reached feedId, fun state reached => ?_, ?_⟩
  · rw [(settled reached).once]
    exact List.not_mem_nil
  · intro admits state left right deadline slot result _ place loud
    unfold Quiet at loud
    push Not at loud
    obtain ⟨cached, call, among, same, passed⟩ := loud
    refine @refetches_passed _ _ _ call ?_ same (by simpa using passed) cached ?_
    · rcases List.mem_append.mp among with before | behind
      · exact List.mem_append_left _ before
      · exact List.mem_append_right _ (List.mem_cons_of_mem _ behind)
    · rw [IconService.get?_removeLoad, if_pos rfl]

/-! ## Two calls -/

/-- A second call waits for the load of the first one, and both are given the icon by the
one request. -/
theorem requested_once_for_two : ∃ state, (iconCalls Quiet).Reachable state ∧
    state.calls = [⟨42, none, .ended (some ⟨[1], []⟩)⟩, ⟨42, none, .ended (some ⟨[1], []⟩)⟩] ∧
    state.inProgress 42 ≤ 1 ∧ 42 ∉ state.refetched := by
  have start : (iconCalls Quiet).Reachable ⟨.new, 0, [], []⟩ := .start ⟨0, rfl⟩
  have called := (start.next (.call 42 none)).next (.call 42 none)
  have missed := (called.next (@Step.move _ _ [⟨42, none, .entering⟩] _ _ _ _ rfl .lookCache)).next
    (@Step.move _ _ [⟨42, none, .entering⟩] _ _ _ _ rfl .lookLoads)
  have requested := (missed.next (@Step.move _ _ [⟨42, none, .entering⟩] _ _ _ _ rfl .lead)).next
    (@Step.request _ _ [⟨42, none, .entering⟩] _ _ _ _ rfl)
  have joining := (requested.next (@Step.move _ _ [] _ _ _ _ rfl .lookCache)).next
    (@Step.move _ _ [] _ _ _ _ rfl .lookLoads)
  have waiting := joining.next (@Step.move _ _ [] _ _ _ _ rfl (.join 0))
  have loaded :=
    (waiting.next (@Step.move _ _ [⟨42, none, .waiting 0⟩] _ _ _ _ rfl (.answered 0))).next
      (@Step.move _ _ [⟨42, none, .waiting 0⟩] _ _ _ _ rfl (.processed 0 ⟨[1], []⟩ rfl))
  have stored := loaded.next
    (@Step.move _ _ [⟨42, none, .waiting 0⟩] _ _ _ _ rfl (.store 0 ⟨[1], []⟩))
  have removed := stored.next (@Step.remove _ _ [⟨42, none, .waiting 0⟩] _ _ _ _ _ rfl (by
    intro _ call among _
    rw [List.mem_singleton.mp among]
    rfl))
  have announced := removed.next
    (@Step.move _ _ [⟨42, none, .waiting 0⟩] _ _ _ _ rfl (.announce 0 _))
  have woken := (announced.next (@Step.move _ _ [] _ _ _ _ rfl (.wake 0))).next
    (@Step.move _ _ [] _ _ _ _ rfl .check)
  have served := woken.next (@Step.move _ _ [] _ _ _ _ rfl .read)
  exact ⟨_, served, rfl, (requests_once 42).1 _ _ served, (requests_once 42).2.1 _ served⟩

/-- Every removal of a load. -/
def anyRemoval : Admission := fun _ _ _ => True

/-- The second call finds the cache empty before the first one stores the icon, and `loads`
empty after the first one is done. -/
theorem requested_twice : ¬ ∀ state, (iconCalls anyRemoval).Reachable state →
    state.inProgress 42 ≤ 1 ∧ 42 ∉ state.refetched := by
  intro once
  have start : (iconCalls anyRemoval).Reachable ⟨.new, 0, [], []⟩ := .start ⟨0, rfl⟩
  have called := (start.next (.call 42 none)).next (.call 42 none)
  have missed := (called.next (@Step.move _ _ [] _ _ _ _ rfl .lookCache)).next
    (@Step.move _ _ [⟨42, none, .missed⟩] _ _ _ _ rfl .lookCache)
  have led := (missed.next (@Step.move _ _ [] _ _ _ _ rfl .lookLoads)).next
    (@Step.move _ _ [] _ _ _ _ rfl .lead)
  have loaded := ((led.next (@Step.request _ _ [] _ _ _ _ rfl)).next
    (@Step.move _ _ [] _ _ _ _ rfl (.answered 0))).next
      (@Step.move _ _ [] _ _ _ _ rfl (.processed 0 ⟨[1], []⟩ rfl))
  have done := (loaded.next (@Step.move _ _ [] _ _ _ _ rfl (.store 0 ⟨[1], []⟩))).next
    (@Step.remove _ _ [] _ _ _ _ _ rfl trivial)
  have again : ∀ state, (iconCalls anyRemoval).Reachable state →
      ⟨42, none, .missed⟩ ∈ state.calls → (state.service.cache.get? 42).isSome →
      state.service.loads.get? 42 = none → False := by
    intro state reached among cached absent
    obtain ⟨later, run, again⟩ := @refetches_passed anyRemoval _ _ _ among rfl rfl cached absent
    exact (once _ (reached.steps run)).2 again
  exact again _ done (List.mem_cons_of_mem _ List.mem_cons_self) rfl rfl

end IconCalls

end FluxBar
