import FluxBar.Library.Dictionary
import FluxBar.Library.TransitionSystem
import Mathlib.Data.Finset.Basic
import Mathlib.Data.Rat.Lemmas
import Mathlib.Algebra.Order.Ring.Rat

/-! The tracker of the popover that decides which articles were seen and scrolled past.
Coordinates and times are rational. -/
namespace FluxBar
open Relational

/-! ## `CGRect` -/

/-- `CGRect`, with exact coordinates; the frames of rows are finite and of no negative size.
-/
structure CGRect where
  originX : ℚ
  originY : ℚ
  sizeWidth : ℚ
  sizeHeight : ℚ
  deriving DecidableEq, Repr

namespace CGRect
variable (rect other : CGRect)

def minX : ℚ := min rect.originX (rect.originX + rect.sizeWidth)
def maxX : ℚ := max rect.originX (rect.originX + rect.sizeWidth)
def minY : ℚ := min rect.originY (rect.originY + rect.sizeHeight)
def maxY : ℚ := max rect.originY (rect.originY + rect.sizeHeight)
def midY : ℚ := rect.originY + rect.sizeHeight / 2
def height : ℚ := |rect.sizeHeight|

/-- `intersection(_:).height`; rectangles that do not meet intersect in the null rectangle. -/
def intersectionHeight : ℚ :=
  if max rect.minX other.minX ≤ min rect.maxX other.maxX ∧
      max rect.minY other.minY ≤ min rect.maxY other.maxY then
    min rect.maxY other.maxY - max rect.minY other.minY
  else 0

end CGRect

/-! ## The tracker -/

/-- `ScrolloverConfiguration`: how much of a row must be seen, for how long, and how far the
list may jump. -/
structure ScrolloverConfiguration where
  minimumVisibleFraction : ℚ := 60 / 100
  minimumVisibleDuration : ℚ := 70 / 100
  maximumViewportJumpFraction : ℚ := 85 / 100
  deriving DecidableEq, Repr

/-- `Exposure`: since when a row has been seen well, whether that was long enough, and where
it was. -/
structure Exposure where
  visibleSince : Option ℚ
  qualified : Bool
  processedFrame : CGRect
  currentFrame : CGRect
  deriving DecidableEq, Repr

/-- An exposure before anything was observed of it. -/
def Exposure.start (frame : CGRect) : Exposure where
  visibleSince := none
  qualified := false
  processedFrame := frame
  currentFrame := frame

/-- What the view reports at one time: the frames of its rows, the viewport, and which
articles are unread. -/
structure Observation where
  frames : Dictionary Int CGRect
  viewport : CGRect
  unreadIds : Finset Int
  time : ℚ

/-- `visibleFraction`: how much of a row lies in the viewport; a row without a height is not
seen. -/
def visibleFraction (frame viewport : CGRect) : ℚ :=
  if 0 < frame.height then max 0 (frame.intersectionHeight viewport / frame.height) else 0

/-- `ScrolloverExposureTracker`: the exposures of the articles observed so far. -/
structure ScrolloverExposureTracker where
  configuration : ScrolloverConfiguration
  exposures : Dictionary Int Exposure

namespace ScrolloverExposureTracker
variable (tracker : ScrolloverExposureTracker)

/-- `init`. -/
def init (configuration : ScrolloverConfiguration) : ScrolloverExposureTracker :=
  ⟨configuration, .empty⟩

def reset : ScrolloverExposureTracker := { tracker with exposures := .empty }

def rebase (frames : Dictionary Int CGRect) (unreadIds : Finset Int) : ScrolloverExposureTracker :=
  let exposures := tracker.exposures.filterKeys fun id => id ∈ unreadIds
  { tracker with
    exposures := exposures.reviseAll frames.rows fun id frame exposure =>
      if id ∈ unreadIds then
        exposure.map fun exposure => { exposure with processedFrame := frame, currentFrame := frame }
      else none }

/-- The body of the loop of `observe`, for an unread article: the time it is seen runs on
while enough of it is seen, and starts anew otherwise, until it has qualified. -/
def observeFrame (configuration : ScrolloverConfiguration) (viewport : CGRect) (time : ℚ)
    (frame : CGRect) (exposure : Option Exposure) : Exposure :=
  let fraction := visibleFraction frame viewport
  let exposure := exposure.getD (.start frame)
  let exposure :=
    if configuration.minimumVisibleFraction ≤ fraction then
      let visibleSince := exposure.visibleSince.getD time
      { exposure with
        visibleSince := some visibleSince
        qualified := exposure.qualified ||
          configuration.minimumVisibleDuration ≤ time - visibleSince }
    else if !exposure.qualified then { exposure with visibleSince := none }
    else exposure
  { exposure with currentFrame := frame }

def observe (observation : Observation) : ScrolloverExposureTracker :=
  let exposures := tracker.exposures.reviseAll observation.frames.rows fun id frame exposure =>
    if id ∈ observation.unreadIds then
      some (observeFrame tracker.configuration observation.viewport observation.time frame exposure)
    else none
  { tracker with exposures := exposures.filterKeys fun id => id ∈ observation.unreadIds }

/-- The condition of `processScroll` under which a qualified exposure is marked: its row has
left the viewport at the top, or is no longer laid out and was last above the middle. -/
def passed (exposure : Exposure) (frame : Option CGRect) (viewport : CGRect) : Bool :=
  match frame with
  | some currentFrame =>
    viewport.minY < exposure.processedFrame.maxY && currentFrame.maxY ≤ viewport.minY
  | none => exposure.currentFrame.midY < viewport.midY

/-- The ids `processScroll` collects: qualified, unread, and passed by the frame observed.
-/
def marked (observation : Observation) : List Int :=
  (tracker.exposures.rows.filter fun (id, exposure) =>
    exposure.qualified && id ∈ observation.unreadIds &&
      passed exposure (observation.frames.get? id) observation.viewport).map Prod.fst

/-- The guard of `processScroll`: the user has scrolled down, and by no jump. -/
def accepts (observation : Observation) (offsetDelta : ℚ) (userInitiated : Bool) : Bool :=
  let maximumJump :=
    observation.viewport.height * tracker.configuration.maximumViewportJumpFraction
  userInitiated && 0 < offsetDelta && offsetDelta ≤ maximumJump

def processScroll (observation : Observation) (offsetDelta : ℚ) (userInitiated : Bool) :
    ScrolloverExposureTracker × List Int :=
  if tracker.accepts observation offsetDelta userInitiated then
    let marked := tracker.marked observation
    let tracker := { tracker with exposures := tracker.exposures.filterKeys fun id => id ∉ marked }
    let tracker := tracker.observe observation
    let tracker := { tracker with
      exposures := tracker.exposures.mapValues fun exposure =>
        { exposure with processedFrame := exposure.currentFrame } }
    (tracker, marked.mergeSort fun left right => decide (left ≤ right))
  else (tracker.reset.observe observation, [])

end ScrolloverExposureTracker

/-! ## Events -/

/-- The calls of the view, in whatever order it makes them. -/
inductive TrackerEvent where
  | observe (observation : Observation)
  | rebase (frames : Dictionary Int CGRect) (unreadIds : Finset Int)
  | reset
  | processScroll (observation : Observation) (offsetDelta : ℚ) (userInitiated : Bool)

/-- A tracker with the observations made since its last reset, the newest first. -/
structure Tracking where
  tracker : ScrolloverExposureTracker
  observations : List Observation

namespace Tracking
variable (tracking : Tracking)

def advance : TrackerEvent → Tracking
  | .observe observation =>
    ⟨tracking.tracker.observe observation, observation :: tracking.observations⟩
  | .rebase frames unreadIds => { tracking with tracker := tracking.tracker.rebase frames unreadIds }
  | .reset => ⟨tracking.tracker.reset, []⟩
  | .processScroll observation offsetDelta userInitiated =>
    ⟨(tracking.tracker.processScroll observation offsetDelta userInitiated).1,
      if tracking.tracker.accepts observation offsetDelta userInitiated then
        observation :: tracking.observations
      else [observation]⟩

end Tracking

/-- The runs of a tracker; which events a run may make is a parameter. -/
def trackers (configuration : ScrolloverConfiguration)
    (admitted : ScrolloverExposureTracker → TrackerEvent → Prop) : Transition.System Tracking where
  initial tracking := tracking = ⟨.init configuration, []⟩
  step tracking after := ∃ event, admitted tracking.tracker event ∧ after = tracking.advance event

end FluxBar
