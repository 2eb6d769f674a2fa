import FluxBar.GoIcons
import FluxBar.Library.Places

/-! The Go core asks for an icon once. The cache and the loads are looked at under one lock, and
an icon is stored before its load is taken away, so that a call that finds neither has missed
nothing: the calls are a single flight in the sense of the library. -/
namespace FluxBar.GoIcons
open Transition Relational SingleFlight Places

/-! ## What a step does -/

/-- A step of a call that leaves the service alone. -/
structure Aside (service after : Service) (feedID : Int) (phase next : Phase) : Prop where
  same : after = service
  holds : next.holds = phase.holds
  fetches : next.fetches = phase.fetches
  waits : ∀ loaded, next = .waiting loaded → service.iconLoads.get? feedID = some loaded
  returns : ∀ icon cached, next = .returned icon cached →
    icon = .default ∨ service.iconCache.get? feedID = some icon
  woke : ∀ loaded, next = .woken loaded → phase = .waiting loaded ∧ service.isClosed loaded = true
  brings : ∀ loaded icon, next ≠ .closing loaded icon

/-- A call gives up its load: it is about to close it with no icon. -/
structure GivesUp (service after : Service) (feedID : Int) (phase next : Phase) (loaded : Nat) :
    Prop where
  failed : after = service.fail feedID loaded
  held : phase.holds = some loaded
  fetched : phase.fetches = true
  closing : next = .closing loaded .default

theorem step_cases {service after : Service} {feedID : Int} {phase next : Phase}
    (step : Call.Step service feedID phase after next) :
    Aside service after feedID phase next ∨
    (phase = .entering ∧ service.iconCache.get? feedID = none ∧
      service.iconLoads.get? feedID = none ∧ after = (service.enter feedID).1 ∧
      next = .fetching service.closed.length) ∨
    (∃ loaded, GivesUp service after feedID phase next loaded) ∨
    (∃ loaded icon, phase = .storing loaded icon ∧ after = service.storeIcon feedID icon ∧
      next = .closing loaded icon) ∨
    ∃ loaded icon, phase = .closing loaded icon ∧ after = service.close feedID loaded ∧
      next = .returned icon false := by
  cases step with
  | enter =>
    unfold Service.enter
    cases cached : service.iconCache.get? feedID with
    | some icon =>
      refine .inl ⟨rfl, rfl, rfl, by simp, ?_, by simp, by simp⟩
      rintro _ _ ⟨⟩
      exact .inr cached
    | none =>
      cases loading : service.iconLoads.get? feedID with
      | some loaded =>
        refine .inl ⟨rfl, rfl, rfl, ?_, by simp, by simp, by simp⟩
        rintro _ ⟨⟩
        exact loading
      | none => exact .inr (.inl ⟨rfl, rfl, rfl, rfl, rfl⟩)
  | wake loaded closed =>
    refine .inl ⟨rfl, rfl, rfl, by simp, by simp, ?_, by simp⟩
    rintro _ ⟨⟩
    exact ⟨rfl, closed⟩
  | read =>
    refine .inl ⟨rfl, rfl, rfl, by simp [Service.read], ?_, by simp [Service.read],
      by simp [Service.read]⟩
    rintro icon cached ⟨⟩
    cases service.iconCache.get? feedID with
    | none => exact .inl rfl
    | some icon => exact .inr rfl
  | cancel | answer | normalize =>
    exact .inl ⟨rfl, rfl, rfl, by simp, by simp, by simp, by simp⟩
  | refuse loaded => exact .inr (.inr (.inl ⟨loaded, rfl, rfl, rfl, rfl⟩))
  | reject loaded => exact .inr (.inr (.inl ⟨loaded, rfl, rfl, rfl, rfl⟩))
  | store loaded icon => exact .inr (.inr (.inr (.inl ⟨loaded, icon, rfl, rfl, rfl⟩)))
  | close loaded icon => exact .inr (.inr (.inr (.inr ⟨loaded, icon, rfl, rfl, rfl⟩)))

namespace Service
variable {service : Service} {feedID other : Int} {loaded : Nat}

theorem get?_storeIcon (icon : CachedIcon) : (service.storeIcon feedID icon).iconCache.get? other =
    if other = feedID then some icon else service.iconCache.get? other := by
  unfold storeIcon
  rw [Dictionary.get?_revise]
  split <;> rfl

theorem get?_close : (service.close feedID loaded).iconLoads.get? other =
    if other = feedID then none else service.iconLoads.get? other := by
  unfold close
  rw [Dictionary.get?_filterKeys]
  by_cases same : other = feedID <;> simp [same]

/-- A call that finds neither an icon nor a load begins one on a channel of its own. -/
theorem enter_begins (uncached : service.iconCache.get? feedID = none)
    (unloaded : service.iconLoads.get? feedID = none) :
    (service.enter feedID).1 = { service with
      iconLoads := service.iconLoads.revise feedID fun _ => some service.closed.length
      closed := service.closed ++ [false]
      requested := feedID :: service.requested } := by
  unfold enter
  rw [uncached, unloaded]

theorem isClosed_append {channels : List Bool} (bound : loaded < service.closed.length) :
    Service.isClosed { service with closed := service.closed ++ channels } loaded =
      service.isClosed loaded := by
  unfold isClosed
  rw [List.getElem?_append_left bound]

theorem isClosed_close {channel : Nat} (bound : loaded < service.closed.length) :
    (service.close feedID loaded).isClosed channel =
      (decide (channel = loaded) || service.isClosed channel) := by
  unfold isClosed close
  by_cases same : channel = loaded
  · subst same
    simp [List.getElem?_set_self bound]
  · simp [List.getElem?_set_ne (Ne.symm same), same]

theorem lt_of_isClosed (closed : service.isClosed loaded = true) :
    loaded < service.closed.length := by
  have found : service.closed[loaded]? = some true := by simpa [isClosed] using closed
  exact (List.getElem?_eq_some_iff.mp found).1

end Service

/-! ## One holder for each load -/

/-- A feed has a holder exactly while it has a load, which is the one it holds; a waiting call
waits for that load or for a channel already closed. -/
structure Consistent (service : Service) : Prop where
  holders : ∀ feedID, service.calls.countP (Call.holds feedID) =
    (service.iconLoads.get? feedID).isSome.toNat
  registered : ∀ call ∈ service.calls, ∀ loaded, call.phase.holds = some loaded →
    service.iconLoads.get? call.feedID = some loaded
  pending : ∀ feedID loaded, service.iconLoads.get? feedID = some loaded →
    loaded < service.closed.length ∧ service.isClosed loaded = false
  apart : ∀ feedID other loaded, service.iconLoads.get? feedID = some loaded →
    service.iconLoads.get? other = some loaded → feedID = other
  waits : ∀ call ∈ service.calls, ∀ loaded, call.phase = .waiting loaded →
    service.isClosed loaded = true ∨ service.iconLoads.get? call.feedID = some loaded

namespace Consistent
variable {service : Service} {left right : List Call} {call : Call} {loaded : Nat}

/-- The other calls of the feed of a holder hold nothing, because a load has one holder. -/
theorem alone (held : Consistent service) (place : service.calls = left ++ call :: right)
    (holding : call.phase.holds = some loaded) :
    ∀ other ∈ left ++ right, other.feedID = call.feedID → other.phase.holds = none := by
  intro other among same
  have counted := held.holders call.feedID
  have bound := Bool.toNat_le (service.iconLoads.get? call.feedID).isSome
  rw [place, countP_place, ← List.countP_append] at counted
  have one : (call.holds call.feedID).toNat = 1 := by simp [Call.holds, holding]
  have none : (left ++ right).countP (Call.holds call.feedID) = 0 := by omega
  simpa [Call.holds, same] using List.countP_eq_zero.mp none other among

/-- A call that begins a load. -/
theorem begin (held : Consistent service) (place : service.calls = left ++ call :: right)
    (was : call.phase = .entering) (uncached : service.iconCache.get? call.feedID = none)
    (unloaded : service.iconLoads.get? call.feedID = none) :
    Consistent { (service.enter call.feedID).1 with
      calls := left ++ ⟨call.feedID, .fetching service.closed.length⟩ :: right } := by
  obtain ⟨holders, registered, pending, apart, waits⟩ := held
  rw [place] at registered waits
  obtain ⟨-, loads⟩ := forall_mem_place.mp registered
  obtain ⟨-, waits⟩ := forall_mem_place.mp waits
  rw [Service.enter_begins uncached unloaded]
  have found : ∀ feedID, (service.iconLoads.revise call.feedID
      fun _ => some service.closed.length).get? feedID =
      if feedID = call.feedID then some service.closed.length
      else service.iconLoads.get? feedID := by
    intro feedID
    rw [Dictionary.get?_revise]
    split <;> rfl
  have other : ∀ {feedID loaded}, service.iconLoads.get? feedID = some loaded →
      (service.iconLoads.revise call.feedID fun _ => some service.closed.length).get? feedID =
        some loaded := by
    intro feedID loaded listed
    have different : feedID ≠ call.feedID := fun same => by
      rw [same, unloaded] at listed
      cases listed
    rw [found, if_neg different, listed]
  refine ⟨fun feedID => ?_, forall_mem_place.mpr ⟨?_, ?_⟩, fun feedID loaded => ?_,
    fun feedID second loaded => ?_, forall_mem_place.mpr ⟨fun _ absurd => (by cases absurd), ?_⟩⟩
  · have before := holders feedID
    rw [place, countP_place] at before
    rw [countP_place, found]
    unfold Call.holds at before ⊢
    rw [was] at before
    by_cases same : feedID = call.feedID
    · subst same
      rw [unloaded] at before
      simpa [Phase.holds] using before
    · simpa [same, Ne.symm same] using before
  · rintro _ ⟨⟩
    simp [found]
  · exact fun call among loaded holding => other (loads call among loaded holding)
  · simp only [found]
    split
    · rintro ⟨⟩
      simp [Service.isClosed]
    · intro listed
      obtain ⟨bound, still⟩ := pending feedID loaded listed
      refine ⟨by simp only [List.length_append]; omega, ?_⟩
      exact (Service.isClosed_append bound).trans still
  · simp only [found]
    split <;> rename_i first <;> split <;> rename_i last
    · exact fun _ _ => first.trans last.symm
    · rintro ⟨⟩ listed
      have bound := (pending second _ listed).1
      omega
    · rintro listed ⟨⟩
      have bound := (pending feedID _ listed).1
      omega
    · exact apart feedID second loaded
  · intro waiter among loaded waiting
    rcases waits waiter among loaded waiting with closed | listed
    · exact .inl ((Service.isClosed_append (Service.lt_of_isClosed closed)).trans closed)
    · exact .inr (other listed)

/-- A holder that closes its channel. -/
theorem close (held : Consistent service) {icon : CachedIcon}
    (place : service.calls = left ++ call :: right) (was : call.phase = .closing loaded icon) :
    Consistent { service.close call.feedID loaded with
      calls := left ++ ⟨call.feedID, .returned icon false⟩ :: right } := by
  have holding : call.phase.holds = some loaded := by rw [was]; rfl
  have alone := held.alone place holding
  obtain ⟨holders, registered, pending, apart, waits⟩ := held
  rw [place] at registered waits
  obtain ⟨own, loads⟩ := forall_mem_place.mp registered
  obtain ⟨-, waits⟩ := forall_mem_place.mp waits
  have own := own loaded holding
  have bound := (pending call.feedID loaded own).1
  have closed : ∀ channel, (service.close call.feedID loaded).isClosed channel =
      (decide (channel = loaded) || service.isClosed channel) :=
    fun _ => Service.isClosed_close bound
  refine ⟨fun feedID => ?_, forall_mem_place.mpr ⟨fun _ absurd => (by cases absurd), ?_⟩,
    fun feedID channel => ?_, fun feedID second channel => ?_,
    forall_mem_place.mpr ⟨fun _ absurd => (by cases absurd), ?_⟩⟩
  · have before := holders feedID
    rw [place, countP_place] at before
    rw [countP_place, Service.get?_close]
    unfold Call.holds at before ⊢
    rw [was] at before
    by_cases same : feedID = call.feedID
    · subst same
      rw [own] at before
      simpa [Phase.holds] using before
    · simpa [same, Ne.symm same] using before
  · intro other among channel holding
    have different : other.feedID ≠ call.feedID := fun same => by
      rw [alone other among same] at holding
      cases holding
    rw [Service.get?_close, if_neg different]
    exact loads other among channel holding
  · rw [Service.get?_close]
    split
    · rintro ⟨⟩
    · rename_i different
      intro listed
      obtain ⟨within, still⟩ := pending feedID channel listed
      refine ⟨by simpa [Service.close] using within, (closed channel).trans ?_⟩
      have fresh : channel ≠ loaded := fun same =>
        different (apart feedID call.feedID loaded (same ▸ listed) own)
      rw [still, decide_eq_false fresh]
      rfl
  · simp only [Service.get?_close]
    split <;> split
    · rintro ⟨⟩
    · rintro ⟨⟩
    · rintro _ ⟨⟩
    · exact apart feedID second channel
  · intro other among channel waiting
    change (service.close call.feedID loaded).isClosed channel = true ∨
      (service.close call.feedID loaded).iconLoads.get? other.feedID = some channel
    rw [closed, Service.get?_close]
    rcases waits other among channel waiting with before | listed
    · exact .inl (by rw [before, Bool.or_true])
    · by_cases same : other.feedID = call.feedID
      · rw [same, own] at listed
        cases listed
        exact .inl (by simp)
      · exact .inr (by rw [if_neg same]; exact listed)

/-- A step of a call that keeps its load and leaves the loads alone. -/
theorem keep (held : Consistent service) {after : Service} {next : Phase}
    (place : service.calls = left ++ call :: right) (loads : after.iconLoads = service.iconLoads)
    (closed : after.closed = service.closed) (holds : next.holds = call.phase.holds)
    (waits : ∀ loaded, next = .waiting loaded →
      service.iconLoads.get? call.feedID = some loaded) :
    Consistent { after with calls := left ++ ⟨call.feedID, next⟩ :: right } := by
  obtain ⟨holders, registered, pending, apart, waiting⟩ := held
  rw [place] at registered waiting
  obtain ⟨own, registered⟩ := forall_mem_place.mp registered
  obtain ⟨-, waiting⟩ := forall_mem_place.mp waiting
  have channels : ∀ loaded, Service.isClosed { after with
      calls := left ++ ⟨call.feedID, next⟩ :: right } loaded = service.isClosed loaded := by
    intro loaded
    unfold Service.isClosed
    rw [closed]
  refine ⟨fun feedID => ?_, forall_mem_place.mpr ⟨?_, ?_⟩, fun feedID loaded listed => ?_, ?_,
    forall_mem_place.mpr ⟨fun loaded waiting => .inr ?_, fun other among loaded waits => ?_⟩⟩
  · have before := holders feedID
    rw [place, countP_place] at before
    rw [countP_place, loads]
    unfold Call.holds at before ⊢
    rw [holds]
    exact before
  · rw [holds, loads]
    exact own
  · rw [loads]
    exact registered
  · rw [loads] at listed
    rw [channels, closed]
    exact pending feedID loaded listed
  · rw [loads]
    exact apart
  · rw [loads]
    exact waits loaded waiting
  · rw [channels, loads]
    exact waiting other among loaded waits

end Consistent

theorem consistent_step {service after : Service} (held : Consistent service)
    (step : Service.Step service after) : Consistent after := by
  cases step with
  | call feedID =>
    refine ⟨fun other => ?_, ?_, held.pending, held.apart, ?_⟩
    · rw [List.countP_cons_of_neg (by simp [Call.holds, Phase.holds])]
      exact held.holders other
    · exact List.forall_mem_cons.mpr ⟨fun _ absurd => (by cases absurd), held.registered⟩
    · exact List.forall_mem_cons.mpr ⟨fun _ absurd => (by cases absurd), held.waits⟩
  | @move middle left right call next place step =>
    rcases step_cases step with aside | ⟨was, uncached, unloaded, rfl, rfl⟩ |
        ⟨loaded, gave⟩ | ⟨loaded, icon, was, rfl, rfl⟩ | ⟨loaded, icon, was, rfl, rfl⟩
    · obtain rfl := aside.same
      exact held.keep place rfl rfl aside.holds aside.waits
    · exact held.begin place was uncached unloaded
    · obtain ⟨rfl, holding, -, rfl⟩ := gave
      exact held.keep place rfl rfl holding.symm fun _ absurd => (by cases absurd)
    · exact held.keep place rfl rfl (by rw [was]; rfl) fun _ absurd => (by cases absurd)
    · exact held.close place was

theorem consistent {service : Service} (reached : icons.Reachable service) :
    Consistent service := by
  refine reached.invariant _ ?_ fun _ _ _ held step => consistent_step held step
  rintro _ rfl
  exact ⟨fun _ => rfl, fun _ absurd => (by cases absurd), fun _ _ absurd => (by cases absurd),
    fun _ _ _ absurd => (by cases absurd), fun _ absurd => (by cases absurd)⟩

/-! ## A single flight -/

/-- The calls of one service as fetches under the ids of feeds, which is the abstract
machine that the counts of requests are shown of. -/
def flights (service : Service) : Flights Int CachedIcon where
  kept := service.iconCache.get?
  running feedID := service.calls.any (Call.fetches feedID)
  begun feedID := service.requested.count feedID
  failed feedID := (service.failed.map Prod.fst).count feedID
  dropped _ := 0

theorem fetches_of_ne {feedID other : Int} {phase : Phase} (different : other ≠ feedID) :
    Call.fetches other ⟨feedID, phase⟩ = false := by
  simp [Call.fetches, Ne.symm different]

/-- The fetches of the other calls, none of which is for the feed of a holder. -/
theorem Consistent.others_idle {service : Service} (held : Consistent service)
    {left right : List Call} {call : Call} {loaded : Nat}
    (place : service.calls = left ++ call :: right) (holding : call.phase.holds = some loaded) :
    (left ++ right).any (Call.fetches call.feedID) = false := by
  refine List.any_eq_false.mpr fun other among fetching => ?_
  simp only [Call.fetches, Bool.and_eq_true, decide_eq_true_eq] at fetching
  have none := held.alone place holding other among fetching.1
  have some := Phase.holds_of_fetches fetching.2
  rw [none] at some
  cases some

/-- The fetches after the step of a call beside which none of its feed is in progress. -/
theorem running_moved {calls left right : List Call} {call : Call} {next : Phase}
    (place : calls = left ++ call :: right)
    (idle : (left ++ right).any (Call.fetches call.feedID) = false) :
    (fun feedID => (left ++ ⟨call.feedID, next⟩ :: right).any (Call.fetches feedID)) =
      Function.update (fun feedID => calls.any (Call.fetches feedID)) call.feedID next.fetches := by
  funext feedID
  rw [any_place]
  by_cases same : feedID = call.feedID
  · subst same
    rw [Function.update_self, idle]
    simp [Call.fetches]
  · rw [Function.update_of_ne same, place, any_place, fetches_of_ne same]
    simp [Call.fetches, Ne.symm same]

/-- Every step is one of a single flight, or none; most steps are none. -/
theorem flights_step {service after : Service} (held : Consistent service)
    (step : Service.Step service after) :
    Relation.ReflTransGen Flights.Step (flights service) (flights after) := by
  cases step with
  | call feedID =>
    have same : flights { service with calls := ⟨feedID, .entering⟩ :: service.calls } =
        flights service := by
      simp [flights, Call.fetches, Phase.fetches]
    rw [same]
  | @move middle left right call next place step =>
    have running : ∀ feedID, service.calls.any (Call.fetches feedID) =
        ((left ++ right).any (Call.fetches feedID) || Call.fetches feedID call) :=
      fun feedID => by rw [place, any_place]
    rcases step_cases step with aside | ⟨was, uncached, unloaded, rfl, rfl⟩ |
        ⟨loaded, gave⟩ | ⟨loaded, icon, was, rfl, rfl⟩ | ⟨loaded, icon, was, rfl, rfl⟩
    · obtain rfl := aside.same
      have same : flights { middle with calls := left ++ ⟨call.feedID, next⟩ :: right } =
          flights middle := by
        simp only [flights, running, any_place, Call.fetches, aside.fetches]
      rw [same]
    · -- no load, so no call of the feed is fetching
      have counted := held.holders call.feedID
      rw [unloaded] at counted
      have none := List.countP_eq_zero.mp counted
      have rest : service.calls.any (Call.fetches call.feedID) = false := by
        refine List.any_eq_false.mpr fun other among fetching => none other among ?_
        simp only [Call.fetches, Bool.and_eq_true, decide_eq_true_eq] at fetching
        simp [Call.holds, fetching.1, Phase.holds_of_fetches fetching.2]
      have idle := rest
      rw [running, Bool.or_eq_false_iff] at idle
      rw [Service.enter_begins uncached unloaded]
      have begun := @Flights.Step.start _ _ _ (flights service) call.feedID uncached rest
      refine .single (Eq.mp (congrArg _ ?_) begun)
      simp only [flights, running_moved place idle.1, Flights.more_count]
      rfl
    · obtain ⟨rfl, holding, fetching, rfl⟩ := gave
      have idle := held.others_idle place holding
      have failed := @Flights.Step.fail _ _ _ (flights service) call.feedID
        (by simp [flights, running, Call.fetches, fetching])
      refine .single (Eq.mp (congrArg _ ?_) failed)
      simp only [flights, running_moved place idle, Flights.more_count]
      rfl
    · have holding : call.phase.holds = some loaded := by rw [was]; rfl
      have idle := held.others_idle place holding
      have landed := @Flights.Step.land _ _ _ (flights service) call.feedID icon
        (by simp [flights, running, Call.fetches, was, Phase.fetches])
      refine .single (Eq.mp (congrArg _ ?_) landed)
      have kept : (service.storeIcon call.feedID icon).iconCache.get? =
          Function.update service.iconCache.get? call.feedID (some icon) := by
        funext feedID
        rw [Service.get?_storeIcon, Function.update_apply]
      simp only [flights, running_moved place idle, kept]
      rfl
    · have holding : call.phase.holds = some loaded := by rw [was]; rfl
      have idle := held.others_idle place holding
      have same : flights { service.close call.feedID loaded with
          calls := left ++ ⟨call.feedID, .returned icon false⟩ :: right } = flights service := by
        simp only [flights, running_moved place idle]
        have still : service.calls.any (Call.fetches call.feedID) = false := by
          simp [running, idle, Call.fetches, was, Phase.fetches]
        simp only [Phase.fetches, ← still, Function.update_eq_self]
        rfl
      rw [same]

/-- The calls of one service are a single flight. -/
theorem flights_reachable {service : Service} (reached : icons.Reachable service) :
    (Flights.system Int CachedIcon).Reachable (flights service) := by
  refine reached.abstracts flights ?_ fun _ _ reached step => flights_step (consistent reached) step
  rintro _ rfl
  exact .start rfl

theorem flights_run {service later : Service} (reached : icons.Reachable service)
    (run : Relation.ReflTransGen Service.Step service later) :
    Relation.ReflTransGen Flights.Step (flights service) (flights later) := by
  induction run with
  | refl => exact .refl
  | tail run step ih => exact ih.trans (flights_step (consistent (reached.steps run)) step)

/-- The icon of a feed is requested at most once more than the loads of it that came to
nothing. Once it is in the cache it stays there as it is, and is not requested again. -/
theorem requested_until_loaded {service : Service} (reached : icons.Reachable service)
    (feedID : Int) :
    service.requested.count feedID ≤ (service.failed.map Prod.fst).count feedID + 1 ∧
    ∀ icon, service.iconCache.get? feedID = some icon →
      ∀ later, Relation.ReflTransGen Service.Step service later →
        later.iconCache.get? feedID = some icon ∧
        later.requested.count feedID = service.requested.count feedID := by
  have accounted := Flights.accounted (flights_reachable reached) feedID
  refine ⟨by simpa [flights] using Flights.begun_le (flights_reachable reached) feedID, ?_⟩
  intro icon cached later run
  have idle := accounted.idle (by simp [flights, cached])
  obtain ⟨-, stays⟩ := Flights.kept_of_run cached idle (flights_run reached run)
  obtain ⟨kept, -, begun⟩ := stays rfl
  exact ⟨kept, begun⟩

/-! ## What a call is told -/

/-- What a call has got or is about to get: the icon in the cache, or none when its load came to
nothing (or its context was cancelled). -/
structure Told (service : Service) (call : Call) : Prop where
  returned : ∀ icon cached, call.phase = .returned icon cached →
    icon = .default ∨ service.iconCache.get? call.feedID = some icon
  closing : ∀ loaded icon, call.phase = .closing loaded icon →
    (icon = .default ∧ (call.feedID, loaded) ∈ service.failed) ∨
      service.iconCache.get? call.feedID = some icon
  woken : ∀ loaded, call.phase = .woken loaded ∨
      (call.phase = .waiting loaded ∧ service.isClosed loaded = true) →
    (call.feedID, loaded) ∈ service.failed ∨ (service.iconCache.get? call.feedID).isSome

namespace Told
variable {service after : Service} {call : Call}

/-- Nothing cached and nothing failed is forgotten by a step beside the call. -/
theorem mono (told : Told service call)
    (cache : ∀ icon, service.iconCache.get? call.feedID = some icon →
      after.iconCache.get? call.feedID = some icon)
    (failed : service.failed ⊆ after.failed)
    (closed : ∀ loaded, call.phase = .waiting loaded → after.isClosed loaded = true →
      service.isClosed loaded = true) : Told after call where
  returned icon cached was := (told.returned icon cached was).imp_right (cache icon)
  closing loaded icon was := (told.closing loaded icon was).imp
    (fun failing => ⟨failing.1, failed failing.2⟩) (cache icon)
  woken loaded was := by
    have before := told.woken loaded <| was.imp_right fun waiting =>
      ⟨waiting.1, closed loaded waiting.1 waiting.2⟩
    refine before.imp (fun failing => failed failing) fun cached => ?_
    obtain ⟨icon, cached⟩ := Option.isSome_iff_exists.mp cached
    rw [cache icon cached]
    rfl

end Told

theorem told_step {service after : Service} (reached : icons.Reachable service)
    (told : ∀ call ∈ service.calls, Told service call) (step : Service.Step service after) :
    ∀ call ∈ after.calls, Told after call := by
  have held := consistent reached
  cases step with
  | call feedID =>
    refine List.forall_mem_cons.mpr ⟨⟨by simp, by simp, by simp⟩, fun call among => ?_⟩
    exact (told call among).mono (fun _ cached => cached) (List.Subset.refl _)
      fun _ _ closed => closed
  | @move middle left right call next place step =>
    have waits := held.waits
    rw [place] at told waits
    obtain ⟨own, others⟩ := forall_mem_place.mp told
    obtain ⟨-, waits⟩ := forall_mem_place.mp waits
    rcases step_cases step with aside | ⟨was, uncached, unloaded, rfl, rfl⟩ |
        ⟨loaded, gave⟩ | ⟨loaded, icon, was, rfl, rfl⟩ | ⟨loaded, icon, was, rfl, rfl⟩
    · obtain rfl := aside.same
      refine forall_mem_place.mpr ⟨⟨aside.returns, fun loaded icon closing =>
        absurd closing (aside.brings loaded icon), ?_⟩, fun other among => (others other among).mono
        (fun _ cached => cached) (List.Subset.refl _) fun _ _ closed => closed⟩
      rintro loaded (woken | ⟨waiting, closed⟩)
      · obtain ⟨was, closed⟩ := aside.woke loaded woken
        exact own.woken loaded (.inr ⟨was, closed⟩)
      · have pending := (held.pending call.feedID loaded (aside.waits loaded waiting)).2
        exact absurd (closed.symm.trans pending) (by simp)
    · rw [Service.enter_begins uncached unloaded]
      refine forall_mem_place.mpr ⟨⟨by simp, by simp, by simp⟩, fun other among =>
        (others other among).mono (fun _ cached => cached) (List.Subset.refl _) ?_⟩
      intro loaded waiting closed
      have bound : loaded < service.closed.length := by
        rcases waits other among loaded waiting with before | listed
        · exact Service.lt_of_isClosed before
        · exact (held.pending other.feedID loaded listed).1
      exact (Service.isClosed_append bound).symm.trans closed
    · obtain ⟨rfl, -, -, rfl⟩ := gave
      refine forall_mem_place.mpr ⟨⟨by simp, ?_, by simp⟩, fun other among =>
        (others other among).mono (fun _ cached => cached) (List.subset_cons_self ..)
          fun _ _ closed => closed⟩
      rintro _ _ ⟨⟩
      exact .inl ⟨rfl, List.mem_cons_self⟩
    · have running : (flights service).running call.feedID = true := by
        simp [flights, place, Call.fetches, was, Phase.fetches]
      have idle := (Flights.accounted (flights_reachable reached) call.feedID).idle
      have uncached : service.iconCache.get? call.feedID = none := by
        cases cached : service.iconCache.get? call.feedID with
        | none => rfl
        | some held =>
          rw [idle (by simp [flights, cached])] at running
          cases running
      refine forall_mem_place.mpr ⟨⟨by simp, ?_, by simp⟩, fun other among =>
        (others other among).mono (fun brought cached => ?_) (List.Subset.refl _)
          fun _ _ closed => closed⟩
      · rintro _ _ ⟨⟩
        exact .inr ((Service.get?_storeIcon icon).trans (if_pos rfl))
      · have different : other.feedID ≠ call.feedID := fun same => by
          rw [same, uncached] at cached
          cases cached
        exact (Service.get?_storeIcon icon).trans ((if_neg different).trans cached)
    · have listed := held.registered call (by rw [place]; simp) loaded (by rw [was]; rfl)
      have pending := held.pending call.feedID loaded listed
      have ending := own.closing loaded icon was
      refine forall_mem_place.mpr ⟨⟨?_, by simp, by simp⟩, fun other among => ?_⟩
      · rintro _ _ ⟨⟩
        exact ending.imp_left And.left
      · obtain ⟨returned, closing, woken⟩ := others other among
        refine ⟨returned, closing, ?_⟩
        rintro channel (woke | ⟨waiting, closed⟩)
        · exact woken channel (.inl woke)
        · have closes : (service.close call.feedID loaded).isClosed channel =
              (decide (channel = loaded) || service.isClosed channel) :=
            Service.isClosed_close pending.1
          have closed := closes.symm.trans closed
          by_cases same : channel = loaded
          · subst same
            rcases waits other among channel waiting with before | load
            · exact absurd (before.symm.trans pending.2) (by simp)
            · rw [held.apart other.feedID call.feedID channel load listed]
              refine ending.imp And.right fun cached => ?_
              exact Option.isSome_iff_exists.mpr ⟨icon, cached⟩
          · exact woken channel (.inr ⟨waiting, by simpa [same] using closed⟩)

theorem told {service : Service} (reached : icons.Reachable service) :
    ∀ call ∈ service.calls, Told service call := by
  refine reached.invariant _ ?_ fun _ _ reached held step => told_step reached held step
  rintro _ rfl call ⟨⟩

/-- No call is forgotten or misled: one that waits does so on a closed channel or on that of a
load which another call still holds; once woken it finds the icon in the cache unless that very
load came to nothing; and every icon returned is the cached one, or empty. -/
theorem waiters_served {service : Service} (reached : icons.Reachable service) {call : Call}
    (among : call ∈ service.calls) :
    (∀ loaded, call.phase = .waiting loaded → service.isClosed loaded = true ∨
      ∃ other ∈ service.calls, other.feedID = call.feedID ∧ other.phase.holds = some loaded) ∧
    (∀ loaded, call.phase = .woken loaded → (call.feedID, loaded) ∈ service.failed ∨
      ∃ icon, service.iconCache.get? call.feedID = some icon ∧
        service.read call.feedID = .returned icon true) ∧
    ∀ icon cached, call.phase = .returned icon cached →
      icon = .default ∨ service.iconCache.get? call.feedID = some icon := by
  have held := consistent reached
  have told := told reached call among
  refine ⟨fun loaded waiting => ?_, fun loaded woken => ?_, told.returned⟩
  · refine (held.waits call among loaded waiting).imp_right fun listed => ?_
    have counted := held.holders call.feedID
    rw [listed] at counted
    obtain ⟨other, here, holding⟩ := List.countP_pos_iff.mp (by rw [counted]; exact Nat.one_pos)
    simp only [Call.holds, Bool.and_eq_true, decide_eq_true_eq] at holding
    obtain ⟨channel, holds⟩ := Option.isSome_iff_exists.mp holding.2
    have own := held.registered other here channel holds
    rw [holding.1, listed] at own
    exact ⟨other, here, holding.1, by rw [holds, own]⟩
  · refine (told.woken loaded (.inl woken)).imp_right fun cached => ?_
    obtain ⟨icon, cached⟩ := Option.isSome_iff_exists.mp cached
    exact ⟨icon, cached, by rw [Service.read, cached]; rfl⟩

/-! ## Two calls -/

/-- The second call waits for the load of the first, and is woken with the icon in the
cache. -/
theorem joined_reachable : ∃ service, icons.Reachable service ∧
    service.iconCache.get? 42 = some ⟨[1], []⟩ ∧ ⟨42, .woken 0⟩ ∈ service.calls := by
  have called := ((System.Reachable.start rfl : icons.Reachable .new).next (.call 42)).next (.call 42)
  have entered := (called.next (@Service.Step.move _ _ [] _ _ _ rfl .enter)).next
    (@Service.Step.move _ _ [⟨42, .fetching 0⟩] _ _ _ rfl .enter)
  have answered := (entered.next (@Service.Step.move _ _ [] _ _ _ rfl (.answer 0))).next
    (@Service.Step.move _ _ [] _ _ _ rfl (.normalize 0 ⟨[1], []⟩))
  have closed := (answered.next (@Service.Step.move _ _ [] _ _ _ rfl (.store 0 ⟨[1], []⟩))).next
    (@Service.Step.move _ _ [] _ _ _ rfl (.close 0 ⟨[1], []⟩))
  have woken := closed.next
    (@Service.Step.move _ _ [⟨42, .returned ⟨[1], []⟩ false⟩] _ _ _ rfl (.wake 0 rfl))
  exact ⟨_, woken, rfl, List.mem_cons_of_mem _ List.mem_cons_self⟩

/-- Two calls for one feed, one request for its icon, and none after it. -/
theorem requested_until_loaded_joined : ∃ service, icons.Reachable service ∧
    service.requested.count 42 ≤ (service.failed.map Prod.fst).count 42 + 1 ∧
    ∀ later, Relation.ReflTransGen Service.Step service later →
      later.iconCache.get? 42 = some ⟨[1], []⟩ ∧
      later.requested.count 42 = service.requested.count 42 := by
  obtain ⟨service, reached, cached, -⟩ := joined_reachable
  obtain ⟨bound, stays⟩ := requested_until_loaded reached 42
  exact ⟨service, reached, bound, stays _ cached⟩

/-- The call that was woken finds the icon that the other one has loaded. -/
theorem waiters_served_joined : ∃ service, icons.Reachable service ∧
    ((42, 0) ∈ service.failed ∨ ∃ icon, service.iconCache.get? 42 = some icon ∧
      service.read 42 = .returned icon true) := by
  obtain ⟨service, reached, -, among⟩ := joined_reachable
  exact ⟨service, reached, (waiters_served reached among).2.1 0 rfl⟩

end FluxBar.GoIcons
