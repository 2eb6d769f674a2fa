import FluxBar.ScrolloverExposureTracker
import FluxBar.Library.DwellTime

/-! What a qualified exposure stands for: its article was shown without a break for the
minimum duration since the last reset. An observation that lacks the frame of an article whose
exposure is being timed breaks the showing, but not the timing. -/
namespace FluxBar
open Relational Transition DwellTime

variable {configuration : ScrolloverConfiguration} {id : Int}

/-- An observation in which an article is unread, laid out and visible enough, as the
configuration has it. -/
def Observation.Shows (configuration : ScrolloverConfiguration) (id : Int)
    (observation : Observation) : Prop :=
  id ∈ observation.unreadIds ∧ ∃ frame, observation.frames.get? id = some frame ∧
    configuration.minimumVisibleFraction ≤ visibleFraction frame observation.viewport

/-- Two observations the minimum duration apart, and all between them, show the article. It
is told by the observations alone, and by nothing that the tracker keeps. -/
def Seen (configuration : ScrolloverConfiguration) (id : Int) (observations : List Observation) :
    Prop :=
  Dwelt (Observation.Shows configuration id) Observation.time configuration.minimumVisibleDuration
    observations

namespace ScrolloverExposureTracker
variable {tracker after : ScrolloverExposureTracker} {observation : Observation}
  {observations : List Observation}

/-! ## What each operation makes of an exposure -/

theorem get?_observe : (tracker.observe observation).exposures.get? id =
    if id ∈ observation.unreadIds then
      ((observation.frames.get? id).map fun frame =>
        observeFrame tracker.configuration observation.viewport observation.time frame
          (tracker.exposures.get? id)).or (tracker.exposures.get? id)
    else none := by
  unfold observe
  dsimp only
  rw [Dictionary.get?_filterKeys, Dictionary.get?_reviseAll observation.frames.unique]
  by_cases unread : id ∈ observation.unreadIds
  · simp only [unread, decide_true, if_true]
    congr 1
    unfold Dictionary.get? Table.find?
    rw [Option.map_map]
    cases observation.frames.rows.find? fun row => row.1 = id <;> rfl
  · simp [unread]

/-- An exposure told by another one: its timing is the same, whatever became of its frames.
-/
def SameTiming (after tracker : ScrolloverExposureTracker) : Prop :=
  ∀ id exposure, after.exposures.get? id = some exposure → ∃ before,
    tracker.exposures.get? id = some before ∧ exposure.qualified = before.qualified ∧
      exposure.visibleSince = before.visibleSince

theorem sameTiming_rebase {frames : Dictionary Int CGRect} {unreadIds : Finset Int} :
    SameTiming (tracker.rebase frames unreadIds) tracker := by
  intro id exposure found
  unfold rebase at found
  dsimp only at found
  rw [Dictionary.get?_reviseAll frames.unique, Dictionary.get?_filterKeys] at found
  by_cases unread : id ∈ unreadIds
  · simp only [unread, decide_true, if_true] at found
    cases held : tracker.exposures.get? id with
    | none => simp [held] at found
    | some before =>
      rw [held] at found
      refine ⟨before, rfl, ?_⟩
      cases laid : frames.rows.find? fun entry => decide (entry.1 = id) with
      | none =>
        rw [laid] at found
        cases found
        exact ⟨rfl, rfl⟩
      | some entry =>
        rw [laid] at found
        cases found
        exact ⟨rfl, rfl⟩
  · simp [unread] at found

/-! ## Timing -/

/-- What the exposures say of the observations made since the last reset: a qualified one
was seen, and one that is being timed was shown in all observations since it began. -/
structure Timed (tracker : ScrolloverExposureTracker) (observations : List Observation) : Prop where
  qualified : ∀ id exposure, tracker.exposures.get? id = some exposure →
    exposure.qualified = true → Seen tracker.configuration id observations
  timing : ∀ id exposure start, tracker.exposures.get? id = some exposure →
    exposure.qualified = false → exposure.visibleSince = some start →
    Since (Observation.Shows tracker.configuration id) Observation.time start observations

theorem Timed.of_sameTiming (timed : Timed tracker observations)
    (same : SameTiming after tracker) (configured : after.configuration = tracker.configuration) :
    Timed after observations where
  qualified id exposure found qualified := by
    obtain ⟨before, held, qualification, _⟩ := same id exposure found
    rw [configured]
    exact timed.qualified id before held (qualification ▸ qualified)
  timing id exposure start found unqualified since := by
    obtain ⟨before, held, qualification, visible⟩ := same id exposure found
    rw [configured]
    exact timed.timing id before start held (qualification ▸ unqualified) (visible ▸ since)

theorem timed_reset : Timed tracker.reset [] where
  qualified _ _ absurd := by cases absurd
  timing _ _ _ absurd := by cases absurd

/-- The frame of every unread article whose exposure is being timed is among those observed.
An observation that lacks one says nothing of that article, and the tracker lets its time
run on. -/
def Steady (tracker : ScrolloverExposureTracker) (observation : Observation) : Prop :=
  ∀ id ∈ observation.unreadIds, ∀ exposure, tracker.exposures.get? id = some exposure →
    exposure.qualified = false → exposure.visibleSince ≠ none →
    (observation.frames.get? id).isSome

theorem steady_of_sameTiming (steady : tracker.Steady observation)
    (same : SameTiming after tracker) : after.Steady observation := by
  intro id unread exposure found unqualified visible
  obtain ⟨before, held, qualification, since⟩ := same id exposure found
  exact steady id unread before held (qualification ▸ unqualified) (since ▸ visible)

/-- One frame observed of an article that is shown, or is not. -/
theorem observeFrame_cases {viewport : CGRect} {time : ℚ} {frame : CGRect}
    {exposure : Option Exposure} :
    let before := exposure.getD (.start frame)
    let made := observeFrame configuration viewport time frame exposure
    (configuration.minimumVisibleFraction ≤ visibleFraction frame viewport ∧
      made.visibleSince = some (before.visibleSince.getD time) ∧
      (made.qualified = true ↔ before.qualified = true ∨
        configuration.minimumVisibleDuration ≤ time - before.visibleSince.getD time)) ∨
    (¬ configuration.minimumVisibleFraction ≤ visibleFraction frame viewport ∧
      made.qualified = before.qualified ∧
      (made.qualified = false → made.visibleSince = none)) := by
  dsimp only
  unfold observeFrame
  dsimp only
  by_cases shown : configuration.minimumVisibleFraction ≤ visibleFraction frame viewport
  · refine .inl ⟨shown, ?_, ?_⟩
    · rw [if_pos shown]
    · rw [if_pos shown]
      simp
  · refine .inr ⟨shown, ?_, ?_⟩
    · rw [if_neg shown]
      split <;> rfl
    · rw [if_neg shown]
      split
      · exact fun _ => rfl
      · rename_i qualified
        intro absurd
        simp_all

/-- What was said before an observation, of an exposure that is there or just begins. -/
theorem Timed.before (timed : Timed tracker observations) (frame : CGRect) (id : Int) :
    let before := (tracker.exposures.get? id).getD (.start frame)
    (before.qualified = true → Seen tracker.configuration id observations) ∧
      ∀ start, before.qualified = false → before.visibleSince = some start →
        Since (Observation.Shows tracker.configuration id) Observation.time start observations := by
  cases found : tracker.exposures.get? id with
  | none => exact ⟨fun absurd => (by cases absurd), fun _ _ absurd => (by cases absurd)⟩
  | some exposure => exact ⟨timed.qualified id exposure found, fun start => timed.timing id exposure start found⟩

/-- An observation that lacks no timed exposure keeps the timing right, article by article.
-/
theorem timed_observe (timed : Timed tracker observations) (steady : tracker.Steady observation) :
    Timed (tracker.observe observation) (observation :: observations) := by
  have made : ∀ id exposure, (tracker.observe observation).exposures.get? id = some exposure →
      (exposure.qualified = true →
        Seen tracker.configuration id (observation :: observations)) ∧
      ∀ start, exposure.qualified = false → exposure.visibleSince = some start →
        Since (Observation.Shows tracker.configuration id) Observation.time start
          (observation :: observations) := by
    intro id exposure found
    rw [get?_observe] at found
    split at found
    · rename_i unread
      cases laid : observation.frames.get? id with
      | none =>
        rw [laid] at found
        refine ⟨fun qualified => (timed.qualified id exposure found qualified).cons, ?_⟩
        intro start unqualified since
        have seen := steady id unread exposure found unqualified (by simp [since])
        rw [laid] at seen
        cases seen
      | some frame =>
        rw [laid] at found
        obtain ⟨dwelt, timing⟩ := timed.before frame id
        have cases := @observeFrame_cases tracker.configuration observation.viewport
          observation.time frame (tracker.exposures.get? id)
        dsimp only at cases
        have same : observeFrame tracker.configuration observation.viewport observation.time frame
            (tracker.exposures.get? id) = exposure := Option.some.inj found
        rw [same] at cases
        generalize (tracker.exposures.get? id).getD (.start frame) = before at dwelt timing cases
        rcases cases with ⟨shown, since, qualification⟩ | ⟨_, qualification, unseen⟩
        · have shows : observation.Shows tracker.configuration id := ⟨unread, frame, laid, shown⟩
          have going : before.qualified = false →
              Since (Observation.Shows tracker.configuration id) Observation.time
                (before.visibleSince.getD observation.time) (observation :: observations) := by
            intro unqualified
            cases began : before.visibleSince with
            | none => exact since_begin shows
            | some start => exact (timing start unqualified began).extend shows
          constructor
          · intro qualified
            cases already : before.qualified with
            | true => exact (dwelt already).cons
            | false =>
              have long := (qualification.mp qualified).resolve_left (by simp [already])
              exact (going already).dwelt long
          · intro start unqualified visible
            rw [since] at visible
            cases visible
            refine going (Bool.eq_false_iff.mpr fun already => ?_)
            rw [qualification.mpr (.inl already)] at unqualified
            cases unqualified
        · constructor
          · exact fun qualified => (dwelt (qualification ▸ qualified)).cons
          · intro start unqualified visible
            rw [unseen unqualified] at visible
            cases visible
    · cases found
  exact {
    qualified := fun id exposure found => (made id exposure found).1
    timing := fun id exposure start found => (made id exposure found).2 start }

/-! ## Runs -/

/-- The events whose observation lacks no timed exposure; a scroll that is not accepted
observes nothing. -/
def AdmitsSteady (tracker : ScrolloverExposureTracker) : TrackerEvent → Prop
  | .observe observation => tracker.Steady observation
  | .processScroll observation offsetDelta userInitiated =>
    tracker.accepts observation offsetDelta userInitiated = true → tracker.Steady observation
  | .rebase _ _ | .reset => True

theorem sameTiming_unmarked {marked : List Int} :
    SameTiming { tracker with exposures := tracker.exposures.filterKeys fun id => id ∉ marked }
      tracker := by
  intro id exposure found
  dsimp only at found
  rw [Dictionary.get?_filterKeys] at found
  split at found
  · exact ⟨exposure, found, rfl, rfl⟩
  · cases found

theorem sameTiming_processed :
    SameTiming { tracker with
      exposures := tracker.exposures.mapValues fun exposure =>
        { exposure with processedFrame := exposure.currentFrame } } tracker := by
  intro id exposure found
  dsimp only at found
  rw [Dictionary.get?_mapValues] at found
  obtain ⟨before, held, rfl⟩ := Option.map_eq_some_iff.mp found
  exact ⟨before, held, rfl, rfl⟩

theorem timed_processScroll (timed : Timed tracker observations) {offsetDelta : ℚ}
    {userInitiated : Bool}
    (steady : tracker.accepts observation offsetDelta userInitiated = true →
      tracker.Steady observation) :
    Timed (tracker.processScroll observation offsetDelta userInitiated).1
      (if tracker.accepts observation offsetDelta userInitiated then observation :: observations
        else [observation]) := by
  unfold processScroll
  split
  · rename_i accepted
    have unmarked := @sameTiming_unmarked tracker (tracker.marked observation)
    have observed := timed_observe (timed.of_sameTiming unmarked rfl)
      (steady_of_sameTiming (steady accepted) unmarked)
    exact observed.of_sameTiming sameTiming_processed rfl
  · exact timed_observe timed_reset fun _ _ _ absurd => by cases absurd

theorem configuration_processScroll {offsetDelta : ℚ} {userInitiated : Bool} :
    (tracker.processScroll observation offsetDelta userInitiated).1.configuration =
      tracker.configuration := by
  unfold processScroll
  split <;> rfl

theorem timed_advance {tracking : Tracking} (timed : Timed tracking.tracker tracking.observations)
    {event : TrackerEvent} (admitted : tracking.tracker.AdmitsSteady event) :
    Timed (tracking.advance event).tracker (tracking.advance event).observations ∧
      (tracking.advance event).tracker.configuration = tracking.tracker.configuration := by
  cases event with
  | observe observation => exact ⟨timed_observe timed admitted, rfl⟩
  | rebase frames unreadIds => exact ⟨timed.of_sameTiming sameTiming_rebase rfl, rfl⟩
  | reset => exact ⟨timed_reset, rfl⟩
  | processScroll observation offsetDelta userInitiated =>
    exact ⟨timed_processScroll timed admitted, configuration_processScroll⟩

theorem timed_of_reachable {tracking : Tracking}
    (reached : (trackers configuration AdmitsSteady).Reachable tracking) :
    Timed tracking.tracker tracking.observations ∧
      tracking.tracker.configuration = configuration := by
  refine reached.invariant (fun tracking => Timed tracking.tracker tracking.observations ∧
    tracking.tracker.configuration = configuration) ?_ ?_
  · rintro tracking rfl
    exact ⟨@timed_reset (.init configuration), rfl⟩
  · rintro tracking after _ ⟨timed, configured⟩ ⟨event, admitted, rfl⟩
    obtain ⟨timed, same⟩ := timed_advance timed admitted
    exact ⟨timed, same.trans configured⟩

/-- What `processScroll` returns, told by the exposures. -/
theorem returned_processScroll {offsetDelta : ℚ} {userInitiated : Bool}
    (returned : id ∈ (tracker.processScroll observation offsetDelta userInitiated).2) :
    tracker.accepts observation offsetDelta userInitiated = true ∧ id ∈ observation.unreadIds ∧
      ∃ exposure, tracker.exposures.get? id = some exposure ∧ exposure.qualified = true := by
  unfold processScroll at returned
  split at returned
  · rename_i accepted
    refine ⟨accepted, ?_⟩
    have listed : id ∈ tracker.marked observation := List.mem_mergeSort.mp returned
    obtain ⟨⟨_, exposure⟩, held, rfl⟩ := List.mem_map.mp listed
    obtain ⟨stored, chosen⟩ := List.mem_filter.mp held
    simp only [Bool.and_eq_true, decide_eq_true_eq] at chosen
    exact ⟨chosen.1.2, exposure, Dictionary.get?_eq_some.mpr stored, chosen.1.1⟩
  · cases returned

/-- In runs whose observations lack no timed exposure, only articles that were seen are
marked: those returned are unread, the user has scrolled down by no jump, and each was seen
long enough since the last reset. -/
theorem marked_articles_seen {tracking : Tracking}
    (reached : (trackers configuration AdmitsSteady).Reachable tracking) {offsetDelta : ℚ}
    {userInitiated : Bool}
    (returned : id ∈ (tracking.tracker.processScroll observation offsetDelta userInitiated).2) :
    id ∈ observation.unreadIds ∧ userInitiated = true ∧ 0 < offsetDelta ∧
      offsetDelta ≤ observation.viewport.height * configuration.maximumViewportJumpFraction ∧
      Seen configuration id tracking.observations := by
  obtain ⟨timed, rfl⟩ := timed_of_reachable reached
  obtain ⟨accepted, unread, exposure, held, qualified⟩ := returned_processScroll returned
  unfold accepts at accepted
  simp only [Bool.and_eq_true, decide_eq_true_eq] at accepted
  exact ⟨unread, accepted.1.1, accepted.1.2, accepted.2, timed.qualified id exposure held qualified⟩

end ScrolloverExposureTracker

/-! ## One article -/

/-- A row of the height of the viewport, laid out at this offset. -/
def rowAt (originY : ℚ) : Dictionary Int CGRect := ⟨[(1, ⟨0, originY, 600, 100⟩)], by simp⟩

def wholeViewport : CGRect := ⟨0, 0, 600, 100⟩

/-- An observation of the article, unread. -/
def observedAt (frames : Dictionary Int CGRect) (time : ℚ) : Observation where
  frames := frames
  viewport := wholeViewport
  unreadIds := {1}
  time := time

namespace ScrolloverExposureTracker

theorem processScroll_of_marked {tracker : ScrolloverExposureTracker} {observation : Observation}
    {offsetDelta : ℚ} (accepted : tracker.accepts observation offsetDelta true = true)
    (marked : tracker.marked observation = [id]) :
    (tracker.processScroll observation offsetDelta true).2 = [id] := by
  unfold processScroll
  rw [if_pos accepted]
  dsimp only
  rw [marked, List.mergeSort_singleton]

/-- The tracker after these observations. -/
def observedThrough (observations : List Observation) : ScrolloverExposureTracker :=
  observations.foldl observe (.init {})

/-- An article shown for long enough, then scrolled past, and the only one returned. -/
theorem shown_article_marked :
    ∃ tracking, (trackers {} AdmitsSteady).Reachable tracking ∧
      (tracking.tracker.processScroll (observedAt (rowAt (-101)) 1) 50 true).2 = [1] ∧
      Seen {} 1 tracking.observations := by
  have start : (trackers {} AdmitsSteady).Reachable ⟨.init {}, []⟩ := .start rfl
  have first := start.next ⟨.observe (observedAt (rowAt 0) 0),
    fun _ _ _ absurd => (by cases absurd), rfl⟩
  have second := first.next ⟨.observe (observedAt (rowAt 0) (80 / 100)), ?_, rfl⟩
  · have marked : (observedThrough [observedAt (rowAt 0) 0,
        observedAt (rowAt 0) (80 / 100)]).marked (observedAt (rowAt (-101)) 1) = [1] := by
      decide +kernel
    have returned := @processScroll_of_marked 1 _ (observedAt (rowAt (-101)) 1) 50
      (by decide +kernel) marked
    have listed := returned ▸ List.mem_cons_self
    exact ⟨_, second, returned, (marked_articles_seen second listed).2.2.2.2⟩
  · intro id unread _ _ _ _
    rw [Finset.mem_singleton.mp unread]
    rfl

/-- A single observation takes no time. -/
theorem not_seen_at_once {observation : Observation} : ¬ Seen {} id [observation] := by
  intro seen
  obtain ⟨last, latest, first, earliest, long⟩ := seen.ends
  rw [List.mem_singleton.mp latest, List.mem_singleton.mp earliest, sub_self] at long
  exact absurd long (by decide +kernel)

/-- An article that was out of sight between two glances is marked, because the observation
between them had no frame of it. -/
theorem glanced_article_marked :
    ∃ tracking, (trackers {} fun _ _ => True).Reachable tracking ∧
      (tracking.tracker.processScroll (observedAt (rowAt (-101)) 1) 50 true).2 = [1] ∧
      ¬ Seen {} 1 tracking.observations := by
  have start : (trackers {} fun _ _ => True).Reachable ⟨.init {}, []⟩ := .start rfl
  have first := start.next ⟨.observe (observedAt (rowAt 0) 0), trivial, rfl⟩
  have gone := first.next ⟨.observe (observedAt .empty (30 / 100)), trivial, rfl⟩
  have again := gone.next ⟨.observe (observedAt (rowAt 0) (80 / 100)), trivial, rfl⟩
  have marked : (observedThrough [observedAt (rowAt 0) 0, observedAt .empty (30 / 100),
      observedAt (rowAt 0) (80 / 100)]).marked (observedAt (rowAt (-101)) 1) = [1] := by
    decide +kernel
  refine ⟨_, again, @processScroll_of_marked 1 _ (observedAt (rowAt (-101)) 1) 50
    (by decide +kernel) marked, ?_⟩
  intro seen
  have hidden : ¬ (observedAt .empty (30 / 100)).Shows {} 1 := fun ⟨_, _, absurd, _⟩ => by
    cases absurd
  have broken : Seen {} 1 ([observedAt (rowAt 0) (80 / 100)] ++ observedAt .empty (30 / 100) ::
    [observedAt (rowAt 0) 0]) := seen
  rcases Dwelt.broken broken hidden with glance | glance
  · exact not_seen_at_once glance
  · exact not_seen_at_once glance

end ScrolloverExposureTracker
end FluxBar
